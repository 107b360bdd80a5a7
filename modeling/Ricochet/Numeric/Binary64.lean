set_option autoImplicit false

/-! # What a binary64 number stands for

A finite binary64 number is an integer times a power of two. `Binary64.ofBits` reads that pair off
the 64 bits, so that everything that prints a number or turns it into an integer works in exact
integer arithmetic.
-/

namespace Ricochet

/-- The value of a 64-bit pattern: not a number, an infinity, or `± mantissa · 2 ^ exponent`. -/
inductive Binary64 where
  | nan
  | infinite (negative : Bool)
  | finite (negative : Bool) (mantissa : Nat) (exponent : Int)
  deriving DecidableEq, Repr

namespace Binary64

/-- Sign bit, eleven exponent bits, fifty-two fraction bits. The exponent field `0` holds the
numbers below the normal range, the field `2047` the infinities and the NaNs. -/
def ofBits (bits : UInt64) : Binary64 :=
  let word := bits.toNat
  let negative := decide (Nat.pow 2 63 ≤ word)
  let field : Nat := word / Nat.pow 2 52 % Nat.pow 2 11
  let fraction : Nat := word % Nat.pow 2 52
  if field = 2047 then
    if fraction = 0 then .infinite negative else .nan
  else if field = 0 then .finite negative fraction (-1074)
  else .finite negative (Nat.pow 2 52 + fraction) (Int.ofNat field - 1075)

/-- The value of a floating-point number. -/
def ofFloat (x : Float) : Binary64 := ofBits x.toBits

/-- `mantissa · 2 ^ exponent` rounded down to a natural number. -/
def wholePart (mantissa : Nat) (exponent : Int) : Nat :=
  match exponent with
  | .ofNat up => mantissa <<< up
  | .negSucc down => mantissa >>> (down + 1)

/-- Whether `mantissa · 2 ^ exponent` has a part after the binary point. -/
def hasFraction (mantissa : Nat) (exponent : Int) : Bool :=
  match exponent with
  | .ofNat _ => false
  | .negSucc down => decide (mantissa % Nat.pow 2 (down + 1) ≠ 0)

/-- The integer part, rounded toward zero; `none` for NaN and the infinities. -/
def trunc? : Binary64 → Option Int
  | .finite false m e => some (wholePart m e)
  | .finite true m e => some (-(wholePart m e : Int))
  | _ => none

/-- The greatest integer below; `none` for NaN and the infinities. -/
def floor? : Binary64 → Option Int
  | .finite false m e => some (wholePart m e)
  | .finite true m e =>
      some (-(wholePart m e : Int) - if hasFraction m e then 1 else 0)
  | _ => none

end Binary64

end Ricochet
