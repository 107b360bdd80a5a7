import Ricochet.Field.Ball
import Ricochet.Field.Error

set_option autoImplicit false

/-! # Fields of balls

A field is a domain, the balls in it and a tick that counts the steps taken. Balls do not meet: a
step advances each on its own. `Field.ofBalls` builds a field from balls placed by hand.
-/

namespace Ricochet

variable {α : Type}

/-- A domain with balls, and the number of steps taken, which wraps at `2^64`. -/
structure Field (α : Type) where
  domain : Domain α
  balls : List (Ball α)
  tick : UInt64
  deriving DecidableEq, Repr

namespace Field

variable [Scalar α]

/-- One step: every ball advances, and the tick grows by one. -/
def step (f : Field α) : Field α :=
  { f with balls := f.balls.map (Ball.advance f.domain), tick := f.tick + 1 }

/-- Several steps. -/
def steps : Nat → Field α → Field α
  | 0, f => f
  | n + 1, f => steps n f.step

/-- Whether a domain can hold balls placed by hand: both sides positive and finite. -/
def domainFits (d : Domain α) : Bool :=
  decide (Scalar.zero < d.width) && decide (Scalar.zero < d.height)
    && !Scalar.isInfinite d.width && !Scalar.isInfinite d.height

/-- The ball numbered `i`, checked: its radius must be positive and it must lie in the domain. -/
def place (d : Domain α) (i : Nat) (b : Ball α) : Except (FieldError α) (Ball α) :=
  if ¬ Scalar.zero < b.radius then .error (.ballRadius i b.radius)
  else if ¬ b.inside d then .error (.ballOutside i b.x.pos b.y.pos b.radius)
  else .ok { b with id := i }

/-- Balls checked and numbered from `i` on; the first bad one is reported. -/
def placeFrom (d : Domain α) : Nat → List (Ball α) → Except (FieldError α) (List (Ball α))
  | _, [] => .ok []
  | i, b :: bs => do
      let b ← place d i b
      let bs ← placeFrom d (i + 1) bs
      return b :: bs

/-- The field of the given balls, numbered by their places. -/
def ofBalls (d : Domain α) (balls : List (Ball α)) : Except (FieldError α) (Field α) :=
  if domainFits d then do
    let balls ← placeFrom d 0 balls
    return { domain := d, balls := balls, tick := 0 }
  else .error (.domain d.width d.height)

end Field

end Ricochet
