import Ricochet.Yaml.Fault

set_option autoImplicit false

/-! # YAML tokens

A text is read as a sequence of tokens. Indentation shows as tokens too: a block sequence or mapping
has a start and an end.
-/

namespace Ricochet.Yaml

/-- What a token is. -/
inductive TokenKind where
  | streamEnd
  | version (major minor : Nat)
  | tagDirective (handle shorthand : List Char)
  | documentStart
  | documentEnd
  | blockSequenceStart
  | blockMappingStart
  | blockEnd
  | flowSequenceStart
  | flowSequenceEnd
  | flowMappingStart
  | flowMappingEnd
  | blockEntry
  | flowEntry
  | key
  | value
  | alias (name : List Char)
  | anchor (name : List Char)
  | tag (handle suffix : List Char)
  | scalar (text : List Char) (plain : Bool)
  deriving DecidableEq, Repr

/-- A token and the line it starts on, counted from zero. -/
structure Token where
  kind : TokenKind
  line : Nat
  deriving DecidableEq, Repr

end Ricochet.Yaml
