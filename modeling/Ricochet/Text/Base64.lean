set_option autoImplicit false

/-! # Bytes written in base 64

Four digits of six bits stand for three bytes. The last group may end in one or two equals signs and
then stands for two bytes or one. Line ends are passed over.
-/

namespace Ricochet.Text

/-- The value of a digit. -/
def sextet? (c : Char) : Option Nat :=
  if 'A' ≤ c ∧ c ≤ 'Z' then some (c.toNat - 65)
  else if 'a' ≤ c ∧ c ≤ 'z' then some (c.toNat - 71)
  else if '0' ≤ c ∧ c ≤ '9' then some (c.toNat + 4)
  else if c = '+' then some 62
  else if c = '/' then some 63
  else none

/-- The bytes of groups of four characters. -/
def groups? : List Char → Option (List UInt8)
  | [] => some []
  | [a, b, '=', '='] => do
      let n := (← sextet? a) * 64 + (← sextet? b)
      some [(n / 16).toUInt8]
  | [a, b, c, '='] => do
      let n := ((← sextet? a) * 64 + (← sextet? b)) * 64 + (← sextet? c)
      some [(n / 1024).toUInt8, (n / 4).toUInt8]
  | a :: b :: c :: d :: rest => do
      let n := (((← sextet? a) * 64 + (← sextet? b)) * 64 + (← sextet? c)) * 64 + (← sextet? d)
      let bytes ← groups? rest
      some ((n / 65536).toUInt8 :: (n / 256).toUInt8 :: n.toUInt8 :: bytes)
  | _ => none

/-- The bytes that a text stands for. -/
def base64? (cs : List Char) : Option (List UInt8) :=
  groups? (cs.filter fun c => c ≠ '\n' && c ≠ '\r')

end Ricochet.Text
