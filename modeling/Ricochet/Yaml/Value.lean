import Ricochet.Decimal.Reader
import Ricochet.Numeric.IntLiteral
import Ricochet.Numeric.Scalar
import Ricochet.Text.Base64
import Ricochet.Text.Utf8
import Ricochet.Yaml.Fault
import Ricochet.Yaml.Timestamp

set_option autoImplicit false

/-! # What a scalar means

A plain scalar is a null, a truth value, a number, a timestamp or a text, by its form alone
(`Value.ofPlain`). A tag may ask for one of these; a text of another form is then a fault
(`Value.tagged`). Under a tag that asks for something else, every scalar is a text.
-/

namespace Ricochet.Yaml

/-- What a scalar means. A text is kept as bytes, which encoded data may give in any order. -/
inductive Value where
  | null
  | bool (b : Bool)
  | int (n : Int)
  | float (x : Float)
  | timestamp
  | text (content : List UInt8)
  deriving Repr

namespace Value

/-- The tag of a meaning. -/
def tag : Value → String
  | .null => "!!null"
  | .bool _ => "!!bool"
  | .int _ => "!!int"
  | .float _ => "!!float"
  | .timestamp => "!!timestamp"
  | .text _ => "!!str"

/-- A string as a text. -/
def ofString (s : String) : Value := .text (Utf8.bytes s)

/-- Whether two meanings are one and the same key. Numbers are compared as numbers of their own
kind. Timestamps are not compared at all. -/
def sameKey : Value → Value → Bool
  | .null, .null => true
  | .bool a, .bool b => a = b
  | .int a, .int b => a = b
  | .float a, .float b => a == b
  | .text a, .text b => a = b
  | _, _ => false

/-- The words that have a meaning of their own. -/
def word? (s : String) : Option Value :=
  if s = "true" ∨ s = "True" ∨ s = "TRUE" then some (.bool true)
  else if s = "false" ∨ s = "False" ∨ s = "FALSE" then some (.bool false)
  else if s = "" ∨ s = "~" ∨ s = "null" ∨ s = "Null" ∨ s = "NULL" then some .null
  else if s = ".nan" ∨ s = ".NaN" ∨ s = ".NAN" then some (.float (0.0 / 0.0))
  else if s = ".inf" ∨ s = ".Inf" ∨ s = ".INF" ∨ s = "+.inf" ∨ s = "+.Inf" ∨ s = "+.INF" then
    some (.float (1.0 / 0.0))
  else if s = "-.inf" ∨ s = "-.Inf" ∨ s = "-.INF" then some (.float (-1.0 / 0.0))
  else none

/-- A signed run of digits of a base, as a 64-bit word. -/
def signedIn? (base : Nat) (cs : List Char) : Option Int :=
  let (negative, digits) := Decimal.splitSign cs
  if digits.isEmpty then none
  else
    (Decimal.valueIn? base digits).bind fun n =>
      let k : Int := if negative then -(n : Int) else n
      if minWord ≤ k ∧ k ≤ maxWord then some k else none

/-- Integers whose sign stands behind the mark of their base, as in `0b+101`. -/
def markedInt? : List Char → Option Int
  | '0' :: 'b' :: cs => signedIn? 2 cs
  | '0' :: 'o' :: cs => signedIn? 8 cs
  | _ => none

/-- An integer: a signed word, or an unsigned one. -/
def int? (cs : List Char) : Option Int :=
  match IntLiteral.parseSigned cs with
  | .ok n => some n
  | .error _ =>
      match IntLiteral.parseUnsigned cs with
      | .ok n => some n
      | .error _ => none

/-- A number: an integer if it can be read as one, otherwise a decimal number. Underscores do not
count. -/
def number? (cs : List Char) : Option Value :=
  let plain := cs.filter (· ≠ '_')
  match int? plain with
  | some n => some (.int n)
  | none =>
      match Decimal.read? plain with
      | some x => some (.float x)
      | none => (markedInt? plain).map .int

/-- The meaning of a text by its form. Timestamps are looked for only when `dates`. -/
def ofForm (dates : Bool) (s : String) : Value :=
  match word? s with
  | some v => v
  | none =>
      let cs := s.toList
      match cs with
      | [] => .ofString s
      | c :: _ =>
          if c = '.' then
            match Decimal.read? cs with
            | some x => .float x
            | none => .ofString s
          else if c = '+' ∨ c = '-' ∨ Decimal.isDigit c then
            if dates && isTimestamp cs then .timestamp else (number? cs).getD (.ofString s)
          else .ofString s

/-- The meaning of a plain scalar without a tag. -/
def ofPlain (s : String) : Value := ofForm true s

/-- An integer that fits a signed word, as a decimal number. -/
def asFloat? : Value → Option Value
  | .int n => if n ≤ maxWord then some (.float (floatOfWord n)) else none
  | _ => none

/-- The tags that ask for a meaning which not every text has. -/
def asksForForm (tag : String) : Bool :=
  tag ∈ ["!!bool", "!!int", "!!float", "!!null", "!!timestamp"]

/-- The meaning of a text under a tag. A tag for decimal numbers also takes integers. Encoded bytes
are decoded. -/
def tagged (wanted : String) (s : String) : Except Problem Value :=
  if asksForForm wanted then
    let v := ofForm (wanted = "!!timestamp") s
    if v.tag = wanted then .ok v
    else
      match if wanted = "!!float" then v.asFloat? else none with
      | some v => .ok v
      | none => .error (.tagValue v.tag s wanted)
  else if wanted = "!!binary" then
    match Text.base64? s.toList with
    | some data => .ok (.text data)
    | none => .error .binaryData
  else .ok (.ofString s)

end Value

end Ricochet.Yaml
