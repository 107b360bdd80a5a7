import Ricochet.Demo.Basic
import Ricochet.Demo.Drawing
import Ricochet.Settings.Seeded

set_option autoImplicit false

/-! # The bouncing balls

Two demos show a field of balls: one with a single ball, one with many. They differ in their names
and so in the settings they load. A demo holds the settings and the field of its last successful
reset; the field is absent before the first.
-/

namespace Ricochet

/-- Which of the two demos. -/
inductive BallKind where
  | single
  | many
  deriving DecidableEq, Repr

namespace BallKind

/-- The name by which the demo is chosen. -/
def id : BallKind → String
  | .single => "ball"
  | .many => "balls"

/-- The name shown to people. -/
def title : BallKind → String
  | .single => "Bouncing Ball"
  | .many => "Multiple Bouncing Balls"

end BallKind

/-- The state of a demo of balls. -/
structure BallShow (α : Type) where
  settings : Settings α
  field : Option (Field α)
  paused : Bool
  deriving DecidableEq, Repr

namespace BallShow

variable {α : Type} [Scalar α]

/-- Nothing loaded, nothing built, not paused. -/
def fresh : BallShow α := { settings := Settings.zero, field := none, paused := false }

/-- The state as reported. -/
def state (b : BallShow α) : DemoState :=
  match b.field with
  | none => { tick := 0, balls := 0, paused := b.paused }
  | some f => { tick := f.tick, balls := f.balls.length, paused := b.paused }

/-- A new field, running. -/
def start (settings : Settings α) (field : Field α) : BallShow α :=
  { settings := settings, field := some field, paused := false }

/-- One frame. The pause action toggles stepping; while paused, the step action lets one step
through. -/
def step (input : InputFrame) (b : BallShow α) : StepResult × BallShow α :=
  let paused := if input.has .pause then !b.paused else b.paused
  let b := { b with paused := paused }
  match b.field with
  | none => (⟨b.state, false⟩, b)
  | some f =>
      if !paused || input.has .step then
        let b := { b with field := some f.step }
        (⟨b.state, true⟩, b)
      else (⟨b.state, false⟩, b)

/-- Draws the field under the title of the demo. -/
def render (kind : BallKind) (b : BallShow α) (s : Screen) : Screen :=
  s.drawShow kind.title b.field b.paused

/-- Loads the settings anew and builds a new field from them. Only if all of that succeeds is the
show touched. -/
def reset (kind : BallKind) (world : Surroundings) (seed : Int) (b : BallShow Float) :
    Option PrepareError × BallShow Float :=
  match prepare world kind.id seed with
  | .error e => (some e, b)
  | .ok (settings, field) => (none, start settings field)

/-- The words of a failed reset; a field that cannot be built is blamed on the demo. -/
def explain (kind : BallKind) : PrepareError → List UInt8
  | .load e => e.message
  | .build e => Utf8.bytes (kind.id ++ ": " ++ e.message)

end BallShow

/-- The demo of a kind. -/
def BallKind.demo (kind : BallKind) : Demo Surroundings PrepareError (BallShow Float) where
  id := kind.id
  title := kind.title
  fresh := BallShow.fresh
  reset world options b := b.reset kind world options.seed
  step := BallShow.step
  render := BallShow.render kind
  state := BallShow.state
  pause? b := some b.settings.pause
  explain := BallShow.explain kind

end Ricochet
