set_option autoImplicit false

/-! # Characters of a YAML text

Which characters a text may hold, and the classes of characters that decide where its tokens end.
-/

namespace Ricochet.Yaml

/-- The two Unicode separators, which end a line and stay in the text as they are. -/
def isSeparator (c : Char) : Bool := c.toNat = 0x2028 || c.toNat = 0x2029

/-- A line break: line feed, carriage return, next line or a separator. -/
def isBreak (c : Char) : Bool := c = '\n' || c = '\r' || c.toNat = 0x85 || isSeparator c

/-- What a line break counts for: a separator for itself, all others for a line feed. -/
def breakText (c : Char) : Char := if isSeparator c then c else '\n'

/-- A space or a tab. -/
def isBlank (c : Char) : Bool := c = ' ' || c = '\t'

/-- A blank or a line break. -/
def isSpace (c : Char) : Bool := isBlank c || isBreak c

/-- Whether a character ends a word: a space, a break, or the end of the text. -/
def endsWord : Option Char → Bool
  | some c => isSpace c
  | none => true

/-- Whether a character ends a line: a break or the end of the text. -/
def endsLine : Option Char → Bool
  | some c => isBreak c
  | none => true

/-- Letters, digits, `_` and `-`, of which names are made. -/
def isNameChar (c : Char) : Bool := c.isAlphanum || c = '_' || c = '-'

/-- The byte order mark. -/
def isOrderMark (c : Char) : Bool := c.toNat = 0xFEFF

/-- What a tag may hold besides the characters of names. -/
def isTagPunctuation (c : Char) : Bool :=
  [';', '/', '?', ':', '@', '&', '=', '+', '$', ',', '.', '!', '~', '*', '\'', '(', ')', '[', ']',
    '%'].contains c

/-- What may follow the name of an anchor or an alias, besides spaces and the end. -/
def followsAnchor (c : Char) : Bool := ['?', ':', ',', ']', '}', '%', '@', '`'].contains c

/-- The characters that end a plain scalar between brackets. -/
def endsFlowScalar (c : Char) : Bool := [',', '?', '[', ']', '{', '}'].contains c

/-- The characters that begin a token of their own and so no plain scalar. -/
def isIndicator (c : Char) : Bool :=
  ['-', '?', ':', ',', '[', ']', '{', '}', '#', '&', '*', '!', '|', '>', '\'', '"', '%', '@',
    '`'].contains c

/-- Whether a text may hold a character: no control character but tab, line feed, carriage return
and next line. -/
def isAllowed (c : Char) : Bool :=
  let n := c.toNat
  n = 0x09 || n = 0x0A || n = 0x0D || (0x20 ≤ n && n ≤ 0x7E) || n = 0x85
    || (0xA0 ≤ n && n ≤ 0xD7FF) || (0xE000 ≤ n && n ≤ 0xFFFD) || 0x10000 ≤ n

end Ricochet.Yaml
