import Ricochet.Numeric.Scalar

set_option autoImplicit false

/-! # Rational scalars

Exact arithmetic for the definitions over a scalar. No rational number is infinite, and both ways
back to the integers are exact.
-/

namespace Ricochet

/-- The integer part of a rational number, rounded toward zero. -/
def truncRat (q : Rat) : Int := if 0 ≤ q then q.floor else q.ceil

instance : Scalar Rat where
  decidableLT := inferInstance
  decidableLE := inferInstance
  ofInt n := n
  truncInt := truncRat
  floorInt := Rat.floor
  isInfinite _ := false

end Ricochet
