import Ricochet.Demo.Basic
import Ricochet.Log
import Ricochet.Screen.Runs
import Ricochet.Terminal.Help

set_option autoImplicit false

/-! # A session with a demo

A session shows a demo in a terminal. It is a state with one update function: keys and changes of
size are noted, and each tick runs one frame of the demo with the actions noted since the last one.
A noted restart takes the place of the frame. The view is the demo's screen with one line below it,
which holds the help or the error of the last restart.
-/

namespace Ricochet.Terminal

variable {ω ε σ : Type}

/-- How a session was left. -/
inductive ExitReason where
  | quit
  | back
  deriving DecidableEq, Repr

/-- What happens to a session. -/
inductive Message where
  | key (key : Key)
  | resize (width height : Int)
  /-- A frame is due; the time is in nanoseconds. -/
  | tick (now : Int)
  | other
  deriving DecidableEq, Repr

/-- What a session asks for in return: nothing, the end, or another tick after its interval. -/
inductive Request where
  | nothing
  | quit
  | nextTick
  deriving DecidableEq, Repr

/-- The interval when neither the user nor the demo sets a pace: a sixtieth of a second. -/
def defaultInterval : Int := 16666666

/-- Nanoseconds between frames. A rate chosen by the user wins over the pause of the demo. -/
def frameInterval (rate pause : Int) : Int :=
  if 0 < rate then (1000000000 : Int).tdiv rate
  else if 0 < pause then pause
  else defaultInterval

/-- The state of a session with a demo of states `σ` and errors `ε`. -/
structure Session (ε σ : Type) where
  demo : σ
  options : RunOptions
  screen : Screen
  /-- Nanoseconds between frames. -/
  interval : Int
  /-- The actions noted since the last tick. -/
  pending : InputFrame
  /-- What the demo reported at the last tick. -/
  seen : DemoState
  helpWidth : Int
  exit : ExitReason
  quitting : Bool
  /-- The error of the last restart, if it failed. -/
  failure : Option ε

/-- How error texts look. -/
def errorStyle : Style := ⟨false, .palette 9⟩

/-- How a terminal shows what it is given: texts in a style, and the line of help for a width. -/
structure Look where
  styled : Style → List UInt8 → String
  help : Int → String

/-- The look of a session in a terminal. -/
def Look.ofProfile (p : Profile) : Look where
  styled style text := style.renderBytes p text
  help width := helpLine p width DemoKeys.help

/-- A screen as the terminal shows it. -/
def shownScreen (look : Look) (s : Screen) : String :=
  s.rendered Style.ofColor fun style text => look.styled style (Utf8.bytes text)

namespace Session

/-- The height left for the screen above the line of help. -/
def fieldHeight (height : Int) : Int := max 0 (wrap64 (height - 1))

/-- A session with a demo in a given state. -/
def new (d : Demo ω ε σ) (options : RunOptions) (s : σ) : Session ε σ :=
  { demo := s
    options := options
    screen := Screen.new options.width (fieldHeight options.height)
    interval := frameInterval options.tickRate ((d.pause? s).getD 0)
    pending := .empty
    seen := d.state s
    helpWidth := 0
    exit := .quit
    quitting := false
    failure := none }

/-- Notes a key. Quitting and going back end the session at once. -/
def pressed (m : Session ε σ) (k : Key) : Session ε σ × Request :=
  match DemoKeys.action k with
  | .quit => ({ m with quitting := true, exit := .quit }, .quit)
  | .back => ({ m with quitting := true, exit := .back }, .quit)
  | .none => (m, .nothing)
  | action => ({ m with pending := m.pending.insert action }, .nothing)

/-- Notes a new size of the terminal. The demo does not hear of it. -/
def resized (m : Session ε σ) (width height : Int) : Session ε σ :=
  { m with
    options := { m.options with width := width, height := height }
    screen := m.screen.resize width (fieldHeight height)
    helpWidth := width }

/-- Resets the demo with the time as its seed. -/
def restarted (m : Session ε σ) (d : Demo ω ε σ) (world : ω) (now : Int) :
    Session ε σ × List Log.Record :=
  let options := { m.options with seed := now }
  let m := { m with options := options, pending := .empty }
  let (error, s) := d.reset world options m.demo
  let record : Log.Record := match error with
    | none => ⟨.info, "restarted", [("demo", d.id), ("seed", Decimal.intText now)]⟩
    | some e =>
        ⟨.error, "restart failed", [("demo", d.id), ("error", Utf8.toString (d.explain e))]⟩
  ({ m with demo := s, seen := d.state s, failure := error }, [record])

/-- Runs one frame of the demo. -/
def stepped (m : Session ε σ) (d : Demo ω ε σ) : Session ε σ :=
  let (result, s) := d.step m.pending m.demo
  { m with demo := s, seen := result.state, pending := .empty }

/-- One message: the new state, the request, and what is logged. -/
def update (m : Session ε σ) (d : Demo ω ε σ) (world : ω) :
    Message → Session ε σ × Request × List Log.Record
  | .key k =>
      let (m, request) := m.pressed k
      (m, request, [])
  | .resize width height => (m.resized width height, .nothing, [])
  | .tick now =>
      if m.pending.has .restart then
        let (m, records) := m.restarted d world now
        (m, .nextTick, records)
      else (m.stepped d, .nextTick, [])
  | .other => (m, .nothing, [])

/-- The line below the screen. -/
def footer (m : Session ε σ) (d : Demo ω ε σ) (look : Look) : String :=
  match m.failure with
  | some e => look.styled errorStyle (Utf8.bytes "error: " ++ d.explain e)
  | none => look.help m.helpWidth

/-- What the terminal shows; nothing once the session is being left. -/
def view (m : Session ε σ) (d : Demo ω ε σ) (look : Look) : String :=
  if m.quitting then ""
  else shownScreen look (d.render m.demo m.screen.clear) ++ "\n" ++ m.footer d look

end Session

end Ricochet.Terminal
