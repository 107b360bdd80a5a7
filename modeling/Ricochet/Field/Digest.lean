import Ricochet.Field.Basic

set_option autoImplicit false

/-! # Digests of a field

Two runs are compared by a digest of the tick and of the bit patterns of every position, velocity
and radius: a polynomial in 31 over 64-bit words. Numbers count by their patterns only, so that the
digest is there for every kind of number that has them.
-/

namespace Ricochet

variable {α : Type}

/-- The digest of words that follow a first word. -/
def digest (first : UInt64) (words : List UInt64) : UInt64 :=
  words.foldl (fun h w => h * 31 + w) first

/-- The five bit patterns of a ball, given the pattern of a number. -/
def Ball.words (bits : α → UInt64) (b : Ball α) : List UInt64 :=
  [bits b.x.pos, bits b.y.pos, bits b.x.vel, bits b.y.vel, bits b.radius]

/-- The digest of a field, given the pattern of a number. -/
def Field.hashBy (bits : α → UInt64) (f : Field α) : UInt64 :=
  digest f.tick (f.balls.flatMap (Ball.words bits))

/-- The digest of a field of binary64 numbers. -/
def Field.hash (f : Field Float) : UInt64 := f.hashBy Float.toBits

end Ricochet
