import Mathlib.Algebra.Group.Nat.Defs
import Mathlib.Data.Bool.Basic
import Ricochet.Demo.Balls
import Ricochet.Proofs.FieldRun

set_option autoImplicit false

/-! # Histories of a demo

A demo is reset and stepped in any order. Its history lists every call with what it answered and the
state it left (`Demo.history`). A failed reset answers with its error, and it is up to the demo what
state it leaves; one that leaves the state as it was is said to keep its state on failure.

For the demos of balls, `BallKind.history_determines_show` says what any history comes to: failed
resets might as well not have happened, and the state is the field of the last successful reset,
advanced once for each frame since then that says so, with the pauses since then counted off.
-/

namespace Ricochet

variable {ω ε σ : Type}

namespace Demo

/-! ## Calls, answers and histories -/

/-- A call to a demo: a reset in some surroundings, or a frame. -/
inductive Call (ω : Type) where
  | reset (world : ω) (options : RunOptions)
  | frame (input : InputFrame)

/-- What a call answers: a reset its error, if it failed, and a frame its result. -/
inductive Answer (ε : Type) where
  | reset (error : Option ε)
  | frame (result : StepResult)

/-- A call that was made, its answer and the state after it. -/
structure Event (ω ε σ : Type) where
  call : Call ω
  answer : Answer ε
  after : σ

namespace Event

/-- A reset that succeeded. -/
def started (e : Event ω ε σ) : Bool :=
  match e.answer with
  | .reset none => true
  | _ => false

/-- A reset that failed. -/
def failed (e : Event ω ε σ) : Bool :=
  match e.answer with
  | .reset (some _) => true
  | _ => false

/-- A frame that let a step through. -/
def stepped (e : Event ω ε σ) : Bool :=
  match e.answer with
  | .frame r => r.stepped
  | _ => false

/-- A frame that carries the pause action. -/
def pauses (e : Event ω ε σ) : Bool :=
  match e.call with
  | .frame input => input.has .pause
  | _ => false

end Event

/-- One call in a state. -/
def event (d : Demo ω ε σ) (s : σ) (c : Call ω) : Event ω ε σ :=
  match c with
  | .reset world options =>
      ⟨c, .reset (d.reset world options s).1, (d.reset world options s).2⟩
  | .frame input => ⟨c, .frame (d.step input s).1, (d.step input s).2⟩

/-- Whether failed resets leave the state as it was. -/
def KeepsOnFailure (d : Demo ω ε σ) : Prop :=
  ∀ world options s, (d.reset world options s).1 ≠ none → (d.reset world options s).2 = s

/-- The events of calls made one after the other. -/
def history (d : Demo ω ε σ) : σ → List (Call ω) → List (Event ω ε σ)
  | _, [] => []
  | s, c :: cs => d.event s c :: d.history (d.event s c).after cs

/-- The state after calls. -/
def after (d : Demo ω ε σ) (s : σ) (calls : List (Call ω)) : σ :=
  calls.foldl (fun s c => (d.event s c).after) s

variable (d : Demo ω ε σ)

theorem event_of_reset {world : ω} {options : RunOptions} {s s' : σ} {error : Option ε}
    (h : d.reset world options s = (error, s')) :
    d.event s (.reset world options) = ⟨.reset world options, .reset error, s'⟩ := by
  simp only [event, h]

theorem call_event (s : σ) (c : Call ω) : (d.event s c).call = c := by
  cases c with
  | reset world options => rfl
  | frame input => rfl

theorem started_event_reset (s : σ) (world : ω) (options : RunOptions) :
    (d.event s (.reset world options)).started = true ↔ (d.reset world options s).1 = none := by
  rcases h : d.reset world options s with ⟨_ | e, s'⟩ <;> simp [d.event_of_reset h, Event.started]

theorem failed_event_reset (s : σ) (world : ω) (options : RunOptions) :
    (d.event s (.reset world options)).failed = true ↔ (d.reset world options s).1 ≠ none := by
  rcases h : d.reset world options s with ⟨_ | e, s'⟩ <;> simp [d.event_of_reset h, Event.failed]

variable {d} in
theorem KeepsOnFailure.after_event_of_failed (hd : d.KeepsOnFailure) {s : σ} {c : Call ω}
    (hf : (d.event s c).failed = true) : (d.event s c).after = s := by
  cases c with
  | reset world options => exact hd world options s ((d.failed_event_reset s world options).mp hf)
  | frame input => cases hf

theorem map_call_history (s : σ) (calls : List (Call ω)) :
    (d.history s calls).map (·.call) = calls := by
  induction calls generalizing s with
  | nil => rfl
  | cons c cs ih => rw [history, List.map_cons, call_event, ih]

theorem after_concat (s : σ) (calls : List (Call ω)) (c : Call ω) :
    d.after s (calls ++ [c]) = (d.event (d.after s calls) c).after := by
  unfold after
  rw [List.foldl_append]
  rfl

theorem history_concat (s : σ) (calls : List (Call ω)) (c : Call ω) :
    d.history s (calls ++ [c]) = d.history s calls ++ [d.event (d.after s calls) c] := by
  induction calls generalizing s with
  | nil => rfl
  | cons b calls ih => exact congrArg (d.event s b :: ·) (ih (d.event s b).after)

theorem event_of_started {s : σ} {c : Call ω} (hs : (d.event s c).started = true) :
    ∃ world options s', d.reset world options s = (none, s')
      ∧ d.event s c = ⟨.reset world options, .reset none, s'⟩ := by
  cases c with
  | reset world options =>
      have hreset : d.reset world options s = (none, (d.reset world options s).2) :=
        Prod.ext ((d.started_event_reset s world options).mp hs) rfl
      exact ⟨world, options, _, hreset, d.event_of_reset hreset⟩
  | frame input => cases hs

variable {d} in
/-- **Failed resets leave no trace** on a demo that keeps its state on failure. The calls that did
not fail, made alone, give the events they gave among the others, and end in the same state. -/
theorem KeepsOnFailure.history_without_failed (hd : d.KeepsOnFailure) (s : σ)
    (calls : List (Call ω)) :
    d.history s (((d.history s calls).filter (!·.failed)).map (·.call))
        = (d.history s calls).filter (!·.failed)
      ∧ d.after s (((d.history s calls).filter (!·.failed)).map (·.call)) = d.after s calls := by
  induction calls generalizing s with
  | nil => exact ⟨rfl, rfl⟩
  | cons c cs ih =>
      obtain ⟨ihh, iha⟩ := ih (d.event s c).after
      have hafter : d.after s (c :: cs) = d.after (d.event s c).after cs := rfl
      rw [hafter, history]
      cases hf : (d.event s c).failed with
      | true =>
          -- The rest of the history starts from the state before the failed reset.
          rw [List.filter_cons_of_neg (by simp [hf])]
          rw [hd.after_event_of_failed hf] at ihh iha ⊢
          exact ⟨ihh, iha⟩
      | false =>
          rw [List.filter_cons_of_pos (by simp [hf]), List.map_cons, call_event]
          exact ⟨congrArg (d.event s c :: ·) ihh, iha⟩

/-- A history taken apart at one of its events: what follows is the history of the calls that
follow, from the state that the event left. -/
theorem history_split {s : σ} {calls : List (Call ω)} {before since : List (Event ω ε σ)}
    {e : Event ω ε σ} (h : d.history s calls = before ++ e :: since) :
    (∃ s', e = d.event s' e.call) ∧ since = d.history e.after (since.map (·.call))
      ∧ d.after s calls = d.after e.after (since.map (·.call)) := by
  induction before generalizing s calls with
  | nil =>
      cases calls with
      | nil => cases h
      | cons c cs =>
          obtain ⟨rfl, rfl⟩ := List.cons.inj h
          rw [map_call_history, call_event]
          exact ⟨⟨s, rfl⟩, rfl, rfl⟩
  | cons b before ih =>
      cases calls with
      | nil => cases h
      | cons c cs =>
          have hrest : d.history (d.event s c).after cs = before ++ e :: since :=
            (List.cons.inj h).2
          obtain ⟨hevent, hsince, hafter⟩ := ih hrest
          exact ⟨hevent, hsince, hafter⟩

end Demo

/-- Events among which a reset succeeded, taken apart at the last that did. -/
theorem exists_last_started {events : List (Demo.Event ω ε σ)}
    (h : ∃ e ∈ events, e.started = true) :
    ∃ before e since, events = before ++ e :: since ∧ e.started = true
      ∧ ∀ x ∈ since, x.started = false := by
  obtain ⟨x, hx, hstarted⟩ := h
  have hsome : (events.reverse.find? (·.started)).isSome = true :=
    List.find?_isSome.mpr ⟨x, List.mem_reverse.mpr hx, hstarted⟩
  obtain ⟨e, he⟩ := Option.isSome_iff_exists.mp hsome
  obtain ⟨hlast, since, before, hevents, hnone⟩ := List.find?_eq_some_iff_append.mp he
  refine ⟨before.reverse, e, since.reverse, ?_, hlast, ?_⟩
  · rw [← List.reverse_reverse events, hevents]
    simp
  · intro y hy
    simpa using hnone y (List.mem_reverse.mp hy)

/-! ## Fields that were just built -/

section

variable {τ α : Type} [Scalar α]

theorem Field.tick_of_sample {src : Source τ α} {p : Params α} {s s' : τ} {f : Field α}
    (h : Field.sample src p s = .ok (f, s')) : f.tick = 0 := by
  obtain ⟨hrun, -⟩ := Draw.kept_eq_ok_iff.mp h
  cases hp : p.fault? with
  | some e => rw [Field.run_sampling_of_fault src hp] at hrun; cases hrun
  | none => rw [Field.run_sampling_of_no_fault src hp] at hrun; cases hrun; rfl

/-- A field that was just built has taken no step, whichever way it was built. -/
theorem Settings.tick_of_build {c : Settings α} {src : Option (Source τ α)} {s s' : τ}
    {f : Field α} (h : c.build src s = .ok (f, s')) : f.tick = 0 := by
  by_cases hexplicit : c.explicit = true
  · obtain ⟨-, balls, -, hplaced⟩ := (build_explicit_eq_ok_iff hexplicit).mp h
    obtain ⟨-, -, rfl⟩ := Field.ofBalls_eq_ok.mp hplaced
    rfl
  · obtain ⟨source, -, hsample⟩ :=
      (build_random_eq_ok_iff (Bool.eq_false_of_not_eq_true hexplicit)).mp h
    exact Field.tick_of_sample hsample

end

theorem Settings.tick_of_buildSeeded {c : Settings Float} {seed : Int} {f : Field Float}
    (h : c.buildSeeded seed = .ok f) : f.tick = 0 := by
  unfold Settings.buildSeeded at h
  cases hb : c.build (some Lagged.source) (Lagged.ofSeed seed) with
  | error e => rw [hb] at h; cases h
  | ok r =>
      rw [hb] at h
      cases h
      exact Settings.tick_of_build hb

/-! ## Shows of balls -/

namespace BallShow

section

variable {α : Type} [Scalar α]

/-- Whether a frame lets a step through: there is a field, and the show is running once the frame's
pause is applied, or the frame asks for a step. -/
def letsThrough (input : InputFrame) (b : BallShow α) : Bool :=
  b.field.isSome && (!(b.paused ^^ input.has .pause) || input.has .step)

/-- One frame in one equation. -/
theorem step_eq (input : InputFrame) (b : BallShow α) :
    b.step input =
      let next : BallShow α :=
        { settings := b.settings
          field := if b.letsThrough input then b.field.map Field.step else b.field
          paused := b.paused ^^ input.has .pause }
      (⟨next.state, b.letsThrough input⟩, next) := by
  have hpaused : (if input.has .pause = true then !b.paused else b.paused)
      = (b.paused ^^ input.has .pause) := by
    cases input.has .pause <;> simp
  obtain ⟨settings, field, paused⟩ := b
  unfold step
  rw [hpaused]
  cases field with
  | none => rfl
  | some f =>
      cases hstep : (!(paused ^^ input.has .pause) || input.has .step) <;>
        simp [letsThrough, hstep]

omit [Scalar α] in
/-- The state as reported, in one equation; a show without a field reports no ball at tick zero. -/
theorem state_eq (b : BallShow α) :
    b.state
      = ⟨(b.field.map Field.tick).getD 0, (b.field.map (·.balls.length)).getD 0, b.paused⟩ := by
  unfold state
  cases b.field <;> rfl

/-- A frame advances the tick by one if it lets a step through, and else not at all. -/
theorem tick_step (input : InputFrame) (b : BallShow α) :
    (b.step input).2.state.tick
      = b.state.tick + if (b.step input).1.stepped then 1 else 0 := by
  rw [step_eq]
  simp only [state_eq]
  cases hl : b.letsThrough input with
  | false => simp
  | true =>
      have hfield : b.field.isSome = true := (Bool.and_eq_true_iff.mp hl).1
      obtain ⟨f, hf⟩ := Option.isSome_iff_exists.mp hfield
      rw [hf]
      rfl

end

section

variable {kind : BallKind} {world : Surroundings} {seed : Int} {b b' : BallShow Float}

/-- A reset succeeds exactly when the settings load and their field builds, and the show then starts
over with both. -/
theorem reset_eq_none :
    b.reset kind world seed = (none, b') ↔
      ∃ loaded f, Settings.load world.files kind.id world.configPath = .ok loaded
        ∧ (world.preset.apply loaded).buildSeeded seed = .ok f
        ∧ b' = start (world.preset.apply loaded) f := by
  unfold reset prepare
  cases hload : Settings.load world.files kind.id world.configPath with
  | error e => simp
  | ok loaded =>
      cases hbuild : (world.preset.apply loaded).buildSeeded seed with
      | error e => simp [hbuild]
      | ok f => simp [hbuild, eq_comm]

/-- A reset that fails leaves the show as it was. -/
theorem reset_of_failed (h : (b.reset kind world seed).1 ≠ none) :
    (b.reset kind world seed).2 = b := by
  unfold reset at h ⊢
  cases hprepare : prepare world kind.id seed with
  | error e => rfl
  | ok made =>
      rw [hprepare] at h
      exact absurd rfl h

end

end BallShow

namespace BallKind

variable (kind : BallKind)

/-- Whether a number of pauses leaves a show paused that was running. -/
def odd (n : Nat) : Bool := n % 2 == 1

theorem odd_add (m n : Nat) : odd (m + n) = (odd m ^^ odd n) := by
  unfold odd
  rcases Nat.mod_two_eq_zero_or_one m with hm | hm <;>
    rcases Nat.mod_two_eq_zero_or_one n with hn | hn <;>
    simp [Nat.add_mod, hm, hn]

/-- A reset of a demo of balls that fails leaves the show as it was. -/
theorem keepsOnFailure_demo : kind.demo.KeepsOnFailure :=
  fun _ _ _ h => BallShow.reset_of_failed h

/-- One call that is no successful reset: at most a step of the field and a toggle of the pause. -/
theorem after_event_of_not_started (b : BallShow Float) (c : Demo.Call Surroundings)
    (h : (kind.demo.event b c).started = false) :
    (kind.demo.event b c).after =
      { settings := b.settings
        field := b.field.map (Field.steps (if (kind.demo.event b c).stepped then 1 else 0))
        paused := b.paused ^^ odd (if (kind.demo.event b c).pauses then 1 else 0) } := by
  cases c with
  | reset world options =>
      -- A reset either succeeds or fails, and one that fails keeps the show.
      have hfailed : (kind.demo.reset world options b).1 ≠ none := by
        rw [ne_eq, ← kind.demo.started_event_reset, h]
        exact Bool.false_ne_true
      have hafter : (kind.demo.event b (.reset world options)).after = b :=
        kind.keepsOnFailure_demo world options b hfailed
      rw [hafter]
      obtain ⟨settings, field, paused⟩ := b
      cases field <;> cases paused <;> rfl
  | frame input =>
      have hafter : (kind.demo.event b (.frame input)).after = (b.step input).2 := rfl
      have hstepped : (kind.demo.event b (.frame input)).stepped = (b.step input).1.stepped := rfl
      have hpauses : (kind.demo.event b (.frame input)).pauses = input.has .pause := rfl
      rw [hafter, hstepped, hpauses, BallShow.step_eq]
      cases b.letsThrough input <;> cases input.has .pause <;> cases b.field <;> rfl

/-- **Between resets.** Calls among which no reset succeeds keep the settings, advance the field
once for each frame that says so, and toggle the pause once for each frame that carries it. -/
theorem after_of_none_started (b : BallShow Float) (calls : List (Demo.Call Surroundings))
    (h : ∀ e ∈ kind.demo.history b calls, e.started = false) :
    kind.demo.after b calls =
      { settings := b.settings
        field := b.field.map (Field.steps ((kind.demo.history b calls).countP (·.stepped)))
        paused := b.paused ^^ odd ((kind.demo.history b calls).countP (·.pauses)) } := by
  induction calls generalizing b with
  | nil =>
      obtain ⟨settings, field, paused⟩ := b
      cases field <;> cases paused <;> rfl
  | cons c cs ih =>
      have hfirst := kind.after_event_of_not_started b c (h _ List.mem_cons_self)
      have hrest := ih (kind.demo.event b c).after fun e he => h e (List.mem_cons_of_mem _ he)
      have hafter : kind.demo.after b (c :: cs)
          = kind.demo.after (kind.demo.event b c).after cs := rfl
      rw [hafter, hrest, Demo.history, List.countP_cons, List.countP_cons]
      -- The first event acts first, so its step comes before the counted ones.
      rw [Nat.add_comm (List.countP _ _), Nat.add_comm (List.countP _ _), odd_add]
      simp only [hfirst, Option.map_map, Bool.xor_assoc, BallShow.mk.injEq, true_and, and_true]
      congr 1
      funext f
      exact (Field.steps_add _ _ f).symm

/-- The events of calls to a fresh demo. -/
def events (calls : List (Demo.Call Surroundings)) :
    List (Demo.Event Surroundings PrepareError (BallShow Float)) :=
  kind.demo.history kind.demo.fresh calls

/-- The show after calls to a fresh demo. -/
def shown (calls : List (Demo.Call Surroundings)) : BallShow Float :=
  kind.demo.after kind.demo.fresh calls

/-- **What a history comes to.** For any calls to a fresh demo, in this order:

* the calls that did not fail, made alone, give the same events and the same show, and a reset that
  fails next leaves the show as it is;
* once a reset has succeeded, the show has the settings of the last one that did, the field built
  from them, advanced as often as frames since then report a step, and is paused if the pauses since
  then are odd in number. It reports the number of those steps as its tick, and that pause;
* before that there is no field, all pauses count, and it reports no ball at tick zero;
* the next frame reports a step exactly if there is a field and the show is running after the
  frame's own pause or the frame asks for a step, and the tick grows by one then and else stays. -/
theorem history_determines_show (calls : List (Demo.Call Surroundings)) :
    (kind.events (((kind.events calls).filter (!·.failed)).map (·.call))
        = (kind.events calls).filter (!·.failed)
      ∧ kind.shown (((kind.events calls).filter (!·.failed)).map (·.call)) = kind.shown calls
      ∧ ∀ world options, (kind.demo.reset world options (kind.shown calls)).1 ≠ none →
          kind.shown (calls ++ [.reset world options]) = kind.shown calls)
    ∧ ((∃ e ∈ kind.events calls, e.started = true) →
        ∃ before world options loaded f since,
          kind.events calls = before ++ ⟨.reset world options, .reset none,
            .start (world.preset.apply loaded) f⟩ :: since
          ∧ (∀ e ∈ since, e.started = false)
          ∧ Settings.load world.files kind.id world.configPath = .ok loaded
          ∧ (world.preset.apply loaded).buildSeeded options.seed = .ok f
          ∧ (kind.shown calls).settings = world.preset.apply loaded
          ∧ (kind.shown calls).field = some (f.steps (since.countP (·.stepped)))
          ∧ (kind.shown calls).state.tick.toNat = since.countP (·.stepped) % 2 ^ 64
          ∧ (kind.shown calls).paused = odd (since.countP (·.pauses))
          ∧ (kind.shown calls).state.paused = odd (since.countP (·.pauses)))
    ∧ ((∀ e ∈ kind.events calls, e.started = false) →
        (kind.shown calls).field = none
          ∧ (kind.shown calls).paused = odd ((kind.events calls).countP (·.pauses))
          ∧ (kind.shown calls).state = ⟨0, 0, odd ((kind.events calls).countP (·.pauses))⟩)
    ∧ ∀ input,
        ((kind.demo.step input (kind.shown calls)).1.stepped = true ↔
          (kind.shown calls).field.isSome = true
            ∧ (((kind.shown calls).paused ^^ input.has .pause) = false
              ∨ input.has .step = true))
        ∧ kind.shown (calls ++ [.frame input]) = (kind.demo.step input (kind.shown calls)).2
        ∧ (kind.demo.step input (kind.shown calls)).1.state
            = (kind.shown (calls ++ [.frame input])).state
        ∧ (kind.shown (calls ++ [.frame input])).state.tick = (kind.shown calls).state.tick
            + if (kind.demo.step input (kind.shown calls)).1.stepped then 1 else 0 := by
  refine ⟨?_, fun hsome => ?_, fun hnone => ?_, fun input => ?_⟩
  · obtain ⟨hevents, hshown⟩ :=
      kind.keepsOnFailure_demo.history_without_failed kind.demo.fresh calls
    refine ⟨hevents, hshown, fun world options hfailed => ?_⟩
    exact (kind.demo.after_concat _ calls _).trans
      (kind.keepsOnFailure_demo world options _ hfailed)
  · obtain ⟨before, e, since, hevents, hstarted, hsince⟩ := exists_last_started hsome
    obtain ⟨⟨b, he⟩, hrest, hafter⟩ := kind.demo.history_split hevents
    rw [he] at hstarted
    obtain ⟨world, options, b', hreset, hevent⟩ := kind.demo.event_of_started hstarted
    obtain ⟨loaded, f, hload, hbuild, rfl⟩ := BallShow.reset_eq_none.mp hreset
    rw [hevent] at he
    subst he
    -- The events since the last reset are a history of their own, in which no reset succeeds.
    rw [hrest] at hsince
    have hshown : kind.shown calls = _ :=
      hafter.trans (kind.after_of_none_started _ _ hsince)
    rw [← hrest] at hshown
    refine ⟨before, world, options, loaded, f, since, hevents, ?_, hload, hbuild, ?_, ?_, ?_, ?_,
      ?_⟩
    · rwa [hrest]
    · rw [hshown]
      rfl
    · rw [hshown]
      rfl
    · have htick : (kind.shown calls).state.tick = (f.steps (since.countP (·.stepped))).tick := by
        rw [hshown]
        rfl
      rw [htick, Field.tick_steps, Settings.tick_of_buildSeeded hbuild, UInt64.zero_add]
      exact UInt64.toNat_ofNat'
    · rw [hshown]
      exact Bool.false_xor _
    · rw [BallShow.state_eq, hshown]
      exact Bool.false_xor _
  · have hshown : kind.shown calls = _ := kind.after_of_none_started _ calls hnone
    have hpaused : (kind.shown calls).paused = odd ((kind.events calls).countP (·.pauses)) := by
      rw [hshown]
      exact Bool.false_xor _
    have hfield : (kind.shown calls).field = none := by
      rw [hshown]
      rfl
    refine ⟨hfield, hpaused, ?_⟩
    rw [BallShow.state_eq, hfield, hpaused]
    rfl
  · have hnext : kind.shown (calls ++ [.frame input])
        = (kind.demo.step input (kind.shown calls)).2 := kind.demo.after_concat _ calls _
    have hstep : kind.demo.step input (kind.shown calls) = (kind.shown calls).step input := rfl
    rw [hnext, hstep]
    refine ⟨?_, rfl, ?_, BallShow.tick_step input _⟩
    · rw [BallShow.step_eq]
      simp [BallShow.letsThrough]
    · rw [BallShow.step_eq]

/-- Surroundings with one settings file, named `f`, and a path to look for. -/
def scriptWorld (path : String) : Surroundings :=
  { files := {
      entries := [(["f"], .file ("domain: \x7bwidth: 9, height: 9\x7d\n"
        ++ "initial: [\x7bx: 5, y: 5, vx: 1, radius: 1\x7d]"))]
      workDir := []
      home := none }
    configPath := path
    preset := .fast }

/-- A pause too early, a reset, a reset that finds no file, and four frames: one runs, one pauses,
one asks for a step, one resumes and asks for a step. -/
def script : List (Demo.Call Surroundings) :=
  [.frame (.ofList [.pause]), .reset (scriptWorld "f") .default,
    .reset (scriptWorld "missing") .default, .frame .empty, .frame (.ofList [.pause]),
    .frame (.ofList [.step]), .frame (.ofList [.pause, .step])]

/-- The script ends running at tick three, with the field of its only successful reset. -/
theorem history_determines_show_script :
    (single.shown script).state = ⟨3, 1, false⟩
    ∧ (∃ e ∈ single.events script, e.started = true)
    ∧ ∃ before world options loaded f since,
        single.events script = before ++ ⟨.reset world options, .reset none,
          .start (world.preset.apply loaded) f⟩ :: since
        ∧ (∀ e ∈ since, e.started = false)
        ∧ Settings.load world.files single.id world.configPath = .ok loaded
        ∧ (world.preset.apply loaded).buildSeeded options.seed = .ok f
        ∧ (single.shown script).field = some (f.steps (since.countP (·.stepped))) := by
  have hstarted : ∃ e ∈ single.events script, e.started = true :=
    List.any_eq_true.mp (by decide +kernel)
  obtain ⟨before, world, options, loaded, f, since, hevents, hnone, hload, hbuild, -, hfield, -⟩ :=
    (single.history_determines_show script).2.1 hstarted
  exact ⟨by decide +kernel, hstarted, before, world, options, loaded, f, since, hevents, hnone,
    hload, hbuild, hfield⟩

end BallKind

end Ricochet
