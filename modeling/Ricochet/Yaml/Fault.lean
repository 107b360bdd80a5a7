import Ricochet.Decimal.Digits

set_option autoImplicit false

/-! # Texts that are not YAML

A fault is what is wrong with a text and the line that its message names. Two lines count: the one
on which the construct at hand began, and the one reached. The message names the first that is not
the first line of the text. A fault among characters counts lines from one, a fault among tokens
from zero.
-/

namespace Ricochet.Yaml

/-- What is wrong with a text that is not YAML, or with a document that means nothing. -/
inductive Problem where
  | character
  /-- Tabs left of the column of a plain scalar, and in the indentation of a block scalar. -/
  | tabInPlain
  | tabInBlock
  | noToken
  | entryPlace
  | keyPlace
  | valuePlace
  | missingColon
  | documentInQuotes
  | unclosedQuote
  | escape
  | escapeDigits
  | escapeCode
  | zeroIndent
  | lineEnd
  | anchorName
  | tagMark
  | tagText
  | tagClose
  | tagEnd
  | tagOctet
  | tagLead
  | tagTail
  | tagHandle
  | directiveName
  | directiveLetter
  | unknownDirective
  | versionMissing
  | versionLong
  | versionPoint
  | handleEnd
  | repeatedVersion
  | version
  | repeatedHandle
  | documentStart
  | nodeContent
  | blockEntry
  | blockKey
  | flowItem
  | flowEntry
  | depth
  | unknownAnchor (name : String)
  | selfReference (name : String)
  | excessiveAliases
  | mergeSource
  | compoundKey
  | tagValue (tag : String) (value : String) (wanted : String)
  | binaryData
  deriving DecidableEq, Repr

/-- A problem and the line its message names; zero for none. -/
structure Fault where
  line : Nat
  problem : Problem
  deriving DecidableEq, Repr

namespace Fault

/-- A problem met among characters. Lines are counted from zero. -/
def scanning (origin reached : Nat) (p : Problem) : Fault :=
  ⟨if origin ≠ 0 then origin + 1 else if reached ≠ 0 then reached + 1 else 0, p⟩

/-- A problem met among tokens. Lines are counted from zero. -/
def parsing (origin reached : Nat) (p : Problem) : Fault :=
  ⟨if origin ≠ 0 then origin else reached, p⟩

/-- A problem without a place. -/
def placeless (p : Problem) : Fault := ⟨0, p⟩

end Fault

/-- The words of a problem. -/
def Problem.message : Problem → String
  | .character => "control characters are not allowed"
  | .tabInPlain => "found a tab character that violates indentation"
  | .tabInBlock => "found a tab character where an indentation space is expected"
  | .noToken => "found character that cannot start any token"
  | .entryPlace => "block sequence entries are not allowed in this context"
  | .keyPlace => "mapping keys are not allowed in this context"
  | .valuePlace => "mapping values are not allowed in this context"
  | .missingColon => "could not find expected ':'"
  | .documentInQuotes => "found unexpected document indicator"
  | .unclosedQuote => "found unexpected end of stream"
  | .escape => "found unknown escape character"
  | .escapeDigits => "did not find expected hexdecimal number"
  | .escapeCode => "found invalid Unicode character escape code"
  | .zeroIndent => "found an indentation indicator equal to 0"
  | .lineEnd => "did not find expected comment or line break"
  | .anchorName => "did not find expected alphabetic or numeric character"
  | .tagMark => "did not find expected '!'"
  | .tagText => "did not find expected tag URI"
  | .tagClose => "did not find the expected '>'"
  | .tagEnd => "did not find expected whitespace or line break"
  | .tagOctet => "did not find URI escaped octet"
  | .tagLead => "found an incorrect leading UTF-8 octet"
  | .tagTail => "found an incorrect trailing UTF-8 octet"
  | .tagHandle => "found undefined tag handle"
  | .directiveName => "could not find expected directive name"
  | .directiveLetter => "found unexpected non-alphabetical character"
  | .unknownDirective => "found unknown directive name"
  | .versionMissing => "did not find expected version number"
  | .versionLong => "found extremely long version number"
  | .versionPoint => "did not find expected digit or '.' character"
  | .handleEnd => "did not find expected whitespace"
  | .repeatedVersion => "found duplicate %YAML directive"
  | .version => "found incompatible YAML document"
  | .repeatedHandle => "found duplicate %TAG directive"
  | .documentStart => "did not find expected <document start>"
  | .nodeContent => "did not find expected node content"
  | .blockEntry => "did not find expected '-' indicator"
  | .blockKey => "did not find expected key"
  | .flowItem => "did not find expected ',' or ']'"
  | .flowEntry => "did not find expected ',' or '\x7d'"
  | .depth => "exceeded max depth of 10000"
  | .unknownAnchor name => "unknown anchor '" ++ name ++ "' referenced"
  | .selfReference name => "anchor '" ++ name ++ "' value contains itself"
  | .excessiveAliases => "document contains excessive aliasing"
  | .mergeSource => "map merge requires map or sequence of maps as the value"
  | .compoundKey => "invalid map key"
  | .tagValue tag value wanted =>
      "cannot decode " ++ tag ++ " `" ++ value ++ "` as a " ++ wanted
  | .binaryData => "!!binary value contains invalid base64 data"

/-- The message of a fault. -/
def Fault.message (f : Fault) : String :=
  if f.line = 0 then "yaml: " ++ f.problem.message
  else "yaml: line " ++ Decimal.intText f.line ++ ": " ++ f.problem.message

end Ricochet.Yaml
