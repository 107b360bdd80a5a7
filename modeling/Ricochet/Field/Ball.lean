import Ricochet.Color.Basic
import Ricochet.Numeric.Scalar

set_option autoImplicit false

/-! # Balls and their motion

A ball moves along two axes that know nothing of each other. On one axis it has a position and a
velocity (`Motion`), and one step of it (`Motion.advance`) looks one step ahead: if that would carry
the ball past a wall, the velocity is turned round first. The ball then moves by the velocity it
has. Positions are never corrected, so a ball faster than the room it has leaves the box for one
step.
-/

namespace Ricochet

variable {α : Type}

/-- Position and velocity along one axis. -/
structure Motion (α : Type) where
  pos : α
  vel : α
  deriving DecidableEq, Repr

namespace Motion

variable [Scalar α]

/-- Whether a ball of this radius, centred at `p`, reaches past a wall of an axis of this extent. -/
def beyond (extent radius p : α) : Prop := extent - radius < p ∨ p < radius

instance (extent radius p : α) : Decidable (beyond extent radius p) :=
  inferInstanceAs (Decidable (_ ∨ _))

/-- Turns the velocity round if the next position lies beyond a wall. -/
def reflect (extent radius : α) (m : Motion α) : Motion α :=
  if beyond extent radius (m.pos + m.vel) then { m with vel := -m.vel } else m

/-- Moves by the velocity. -/
def move (m : Motion α) : Motion α := { m with pos := m.pos + m.vel }

/-- One step along an axis: turn round if needed, then move. -/
def advance (extent radius : α) (m : Motion α) : Motion α := (m.reflect extent radius).move

end Motion

/-- The rectangular area that balls move in, with a corner at the origin. -/
structure Domain (α : Type) where
  width : α
  height : α
  deriving DecidableEq, Repr

/-- One ball. The number is its place in the field; radius and colour never change. -/
structure Ball (α : Type) where
  id : Int
  x : Motion α
  y : Motion α
  radius : α
  color : Color
  deriving DecidableEq, Repr

/-- Whether a ball of radius `r` centred at `(x, y)` lies wholly in the domain. -/
def Domain.contains [Scalar α] (d : Domain α) (x y r : α) : Bool :=
  decide (r ≤ x ∧ x ≤ d.width - r ∧ r ≤ y ∧ y ≤ d.height - r)

namespace Ball

variable [Scalar α]

/-- One step of a ball. -/
def advance (d : Domain α) (b : Ball α) : Ball α :=
  { b with
    x := b.x.advance d.width b.radius
    y := b.y.advance d.height b.radius }

/-- Whether the ball lies wholly in the domain. -/
def inside (d : Domain α) (b : Ball α) : Bool := d.contains b.x.pos b.y.pos b.radius

end Ball

end Ricochet
