import Ricochet.Numeric.Word
import Ricochet.Numeric.Binary64

set_option autoImplicit false

/-! # Scalars

Positions, velocities, radii and scales are scalars. The program runs on binary64 numbers
(`instance : Scalar Float`); the motion, the sampling and the drawing are written over any `Scalar`,
so that the same definitions can also be read over the rational numbers.

A scalar has the field operations, the order, the embedding of the integers, and three ways back:
`truncInt` (toward zero), `floorInt` (downward) and the test `isInfinite`. Comparisons are the
scalar's own: on binary64 every comparison with NaN is false.
-/

namespace Ricochet

/-- The arithmetic that motion, sampling and drawing need. -/
class Scalar (α : Type) extends Add α, Sub α, Mul α, Div α, Neg α, LT α, LE α where
  decidableLT : DecidableLT α
  decidableLE : DecidableLE α
  /-- The scalar nearest to an integer. -/
  ofInt : Int → α
  /-- The integer part, rounded toward zero. -/
  truncInt : α → Int
  /-- The greatest integer below. -/
  floorInt : α → Int
  /-- Whether the scalar is one of the two infinities. -/
  isInfinite : α → Bool

attribute [reducible, instance] Scalar.decidableLT Scalar.decidableLE

namespace Scalar

variable {α : Type} [Scalar α]

/-- The scalar zero. -/
def zero : α := ofInt 0

/-- The scalar one half. -/
def half : α := ofInt 1 / ofInt 2

/-- `x` moved to the nearer end of `lo … hi`; the lower end is tested first, and a scalar that
compares with neither end is kept. -/
def clamp (x lo hi : α) : α :=
  if x < lo then lo else if hi < x then hi else x

/-- The lesser of two scalars. Two scalars that do not compare give their sum, which on binary64
is NaN, as one of them is. -/
def lesser (a b : α) : α :=
  if b < a then b else if a ≤ b then a else a + b

end Scalar

/-- An integer as a 64-bit word; what does not fit, or is no number, becomes the least word. -/
def wordOr (n : Option Int) : Int :=
  match n with
  | some k => if minWord ≤ k ∧ k ≤ maxWord then k else minWord
  | none => minWord

/-- The binary64 number nearest to a 64-bit word; an integer outside the range is wrapped first. -/
def floatOfWord (n : Int) : Float :=
  let size := (wrap64 n).natAbs.toUInt64.toFloat
  if wrap64 n < 0 then -size else size

instance : Scalar Float where
  decidableLT := inferInstance
  decidableLE := inferInstance
  ofInt := floatOfWord
  truncInt x := wordOr (Binary64.ofFloat x).trunc?
  floorInt x := wordOr (Binary64.ofFloat x).floor?
  isInfinite x := x.isInf

end Ricochet
