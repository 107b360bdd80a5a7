import Ricochet.Input
import Ricochet.Screen.Basic

set_option autoImplicit false

/-! # Demos

A demo is something that can be reset, stepped frame by frame and drawn. It is a record of functions
on a state of its own type. Resetting may fail, with an error that the demo can explain; it may also
look at its surroundings (files, chosen options), which are passed in.
-/

namespace Ricochet

/-- What a demo is started with. -/
structure RunOptions where
  /-- Screen width in cells. -/
  width : Int
  /-- Screen height in cells. -/
  height : Int
  /-- Frames per second; zero leaves the pace to the demo. -/
  tickRate : Int
  /-- The seed of the random source. -/
  seed : Int
  deriving DecidableEq, Repr

/-- A terminal of the usual size, paced by the demo, with seed zero. -/
def RunOptions.default : RunOptions := { width := 80, height := 24, tickRate := 0, seed := 0 }

/-- What a demo reports about itself. -/
structure DemoState where
  /-- Steps since the last reset. -/
  tick : UInt64
  /-- How many balls there are. -/
  balls : Nat
  /-- Whether stepping is suspended. -/
  paused : Bool
  deriving DecidableEq, Repr

/-- What one frame did. -/
structure StepResult where
  state : DemoState
  /-- False when the frame was skipped. -/
  stepped : Bool
  deriving DecidableEq, Repr

/-- A demo with surroundings `ω`, errors `ε` and states `σ`. -/
structure Demo (ω ε σ : Type) where
  /-- The name by which the demo is chosen. -/
  id : String
  /-- The name shown to people. -/
  title : String
  /-- The state before any reset. -/
  fresh : σ
  /-- Starts over: the error if that failed, and the state after it. -/
  reset : ω → RunOptions → σ → Option ε × σ
  /-- One frame with the actions triggered in it. -/
  step : InputFrame → σ → StepResult × σ
  /-- Draws the state onto a blank screen. -/
  render : σ → Screen → Screen
  /-- The state as reported. -/
  state : σ → DemoState
  /-- The pause between frames in nanoseconds, for a demo that has one of its own. -/
  pause? : σ → Option Int
  /-- The words of an error. -/
  explain : ε → List UInt8

end Ricochet
