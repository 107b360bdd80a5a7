import Ricochet.Field.Basic
import Ricochet.Log
import Ricochet.Time.Duration

set_option autoImplicit false

/-! # Headless runs

A run steps a field and hands every frame to a renderer, until its budget is used up, the
environment cancels it, or the renderer fails. The environment is asked before every frame; a frame
is one step and one drawing. Cancelling is not an error. The loop only knows that what it acts on
can be stepped, shown and drawn (`Stage`).
-/

namespace Ricochet.Run

variable {α ρ ε ω : Type}

/-- A renderer of state `ρ`: it is given the domain and the balls of a frame and may fail. -/
abbrev Renderer (ρ ε α : Type) : Type := ρ → Domain α → List (Ball α) → ρ × Option ε

/-- What the environment says before a frame. -/
inductive Signal where
  | proceed
  | cancelled
  deriving DecidableEq, Repr

/-- A drawing that failed: the tick it failed at and the renderer's error. -/
structure DrawFailure (ε : Type) where
  tick : UInt64
  error : ε
  deriving DecidableEq, Repr

/-- The message of a failed drawing, given the words of the renderer's error. -/
def DrawFailure.message (explain : ε → String) (f : DrawFailure ε) : String :=
  "driver: draw at tick " ++ Decimal.intText f.tick.toNat ++ ": " ++ explain f.error

/-! ## The loop -/

/-- What a run acts on: it can be stepped, it shows a field, and a frame can be drawn on it, which
may fail. -/
structure Stage (ω ε α : Type) where
  step : ω → ω
  field : ω → Field α
  draw : Domain α → List (Ball α) → ω → ω × Option ε

/-- A run so far: what it acts on, the frames run, and the failure that ended it, if one did. Frames
are counted in a word, which starts again from zero when it is full. -/
structure Progress (ω ε : Type) where
  world : ω
  frames : UInt64
  failure : Option (DrawFailure ε)

namespace Progress

/-- A run before its first frame. -/
def start (w : ω) : Progress ω ε := { world := w, frames := 0, failure := none }

/-- Whether a run ends before the next frame: it has failed, its budget is used up (a budget of zero
is no limit), or it is cancelled. -/
def ended (budget : UInt64) (signal : Signal) (p : Progress ω ε) : Bool :=
  p.failure.isSome || (budget ≠ 0 && decide (budget ≤ p.frames)) || signal = .cancelled

end Progress

namespace Stage

/-- One frame: a step and a drawing. -/
def frame (g : Stage ω ε α) (p : Progress ω ε) : Progress ω ε :=
  let stepped := g.step p.world
  let shown := g.field stepped
  let (drawn, error) := g.draw shown.domain shown.balls stepped
  { world := drawn, frames := p.frames + 1
    failure := error.map fun e => ⟨(g.field drawn).tick, e⟩ }

/-- Frames until the run ends, at most `fuel` of them; `none` if it has not ended by then. The next
signal of the environment is the one numbered `n`. -/
def runFrom (g : Stage ω ε α) (budget : UInt64) (signals : Nat → Signal) :
    Nat → Nat → Progress ω ε → Option (Progress ω ε)
  | 0, n, p => if p.ended budget (signals n) then some p else none
  | fuel + 1, n, p =>
      if p.ended budget (signals n) then some p
      else g.runFrom budget signals fuel (n + 1) (g.frame p)

/-- A run from its start. -/
def run (g : Stage ω ε α) (budget : UInt64) (signals : Nat → Signal) (fuel : Nat) (w : ω) :
    Option (Progress ω ε) :=
  g.runFrom budget signals fuel 0 (.start w)

end Stage

/-! ## Fields and renderers -/

/-- A field and the state of its renderer. -/
structure Scene (ρ α : Type) where
  field : Field α
  renderer : ρ

/-- What a field and a renderer make of a run. -/
def Stage.live [Scalar α] (draw : Renderer ρ ε α) : Stage (Scene ρ α) ε α where
  step w := { w with field := w.field.step }
  field w := w.field
  draw d balls w :=
    let (r, error) := draw w.renderer d balls
    ({ w with renderer := r }, error)

/-! ## What is logged about a run -/

/-- The record of the start of a run. -/
def started (runId : String) (f : Field α) (interval : Int) (budget : UInt64) : Log.Record :=
  ⟨.info, "run started", [("run_id", runId), ("balls", Decimal.intText f.balls.length),
    ("interval", Duration.text interval), ("steps", Decimal.intText budget.toNat)]⟩

/-- The record of the end of a run. -/
def ended (runId elapsed : String) (explain : ε → String) (p : Progress ω ε) : Log.Record :=
  match p.failure with
  | none =>
      ⟨.info, "run finished",
        [("run_id", runId), ("steps", Decimal.intText p.frames.toNat), ("elapsed", elapsed)]⟩
  | some f =>
      ⟨.error, "run failed",
        [("run_id", runId), ("steps", Decimal.intText p.frames.toNat),
          ("error", f.message explain)]⟩

end Ricochet.Run
