import Ricochet.Demo.Basic
import Ricochet.Screen.Shapes

set_option autoImplicit false

/-! # A demo that counts

The smallest demo: it counts its frames and can be paused. Its surroundings are a text; unless the
text is empty, a reset fails with it. It stands in for a field of balls where only the handling of
frames matters.
-/

namespace Ricochet

/-- Frames counted, and whether counting is suspended. -/
structure Counter where
  count : UInt64
  paused : Bool
  deriving DecidableEq, Repr

namespace Counter

/-- The state as reported: one ball, and the count as its tick. -/
def state (c : Counter) : DemoState := { tick := c.count, balls := 1, paused := c.paused }

/-- Starts counting over and stays paused if it was. -/
def reset (refusal : String) (c : Counter) : Option String × Counter :=
  if refusal = "" then (none, { c with count := 0 }) else (some refusal, c)

/-- One frame: the pause action toggles counting, then the frame counts unless paused. -/
def step (input : InputFrame) (c : Counter) : StepResult × Counter :=
  let paused := if input.has .pause then !c.paused else c.paused
  let c := { count := if paused then c.count else c.count + 1, paused := paused }
  (⟨c.state, !paused⟩, c)

/-- The counting demo with a name, a title, the text it shows and, if it paces itself, a pause in
nanoseconds. -/
def demo (id title banner : String) (pause? : Option Int) : Demo String String Counter where
  id := id
  title := title
  fresh := { count := 0, paused := false }
  reset refusal _ c := c.reset refusal
  step := step
  render _ s := s.drawText 0 0 banner.toList Color.orange
  state := state
  pause? _ := pause?
  explain := Utf8.bytes

end Counter

end Ricochet
