import Ricochet.Numeric.Binary64
import Ricochet.Decimal.Digits

set_option autoImplicit false

/-! # Fixed-point text of a binary64 number

`fixed places x` writes the exact value of `x` rounded to a number of decimal places. The quotient
is rounded once, in exact arithmetic, and a value half way between two neighbours goes to the even
one.
-/

namespace Ricochet.Decimal

/-- `num / den` rounded to the nearest natural number, a half going to the even neighbour. -/
def roundDiv (num den : Nat) : Nat :=
  let q := num / den
  let r := num % den
  if den < 2 * r then q + 1
  else if 2 * r = den ∧ q % 2 = 1 then q + 1
  else q

/-- The value `mantissa · 2 ^ exponent` as a quotient of natural numbers. -/
def quotient (mantissa : Nat) (exponent : Int) : Nat × Nat :=
  match exponent with
  | .ofNat up => (mantissa <<< up, 1)
  | .negSucc down => (mantissa, Nat.pow 2 (down + 1))

/-- A natural number of units in the last place, with the decimal point put in. -/
def pointed (places units : Nat) : List Char :=
  let ds := natChars units
  let ds := List.replicate (places + 1 - ds.length) '0' ++ ds
  let whole := ds.take (ds.length - places)
  let rest := ds.drop (ds.length - places)
  if places = 0 then whole else whole ++ '.' :: rest

/-- The text of `x` with exactly `places` decimal places. Not-a-number is `NaN` and the infinities
are `+Inf` and `-Inf`; the sign of a negative zero is kept. -/
def fixed (places : Nat) (x : Float) : String :=
  match Binary64.ofFloat x with
  | .nan => "NaN"
  | .infinite false => "+Inf"
  | .infinite true => "-Inf"
  | .finite negative m e =>
      let (num, den) := quotient m e
      let body := pointed places (roundDiv (num * Nat.pow 10 places) den)
      String.ofList (if negative then '-' :: body else body)

end Ricochet.Decimal
