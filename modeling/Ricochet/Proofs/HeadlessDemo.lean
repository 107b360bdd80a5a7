import Ricochet.Command.Outcome
import Ricochet.Proofs.DemoHistory
import Ricochet.Proofs.HeadlessRun

set_option autoImplicit false

/-! # Headless runs show what the demo shows

A headless run makes its field without a demo and steps it in a loop of its own. A demo makes its
field when it is reset and steps it once per frame. Given the same flags and the same files the two
agree: `Command.headless_run_shows_demo` says that they fail together, and that the balls handed to
the renderer in each frame of the run are the balls of the demo after as many frames.
-/

namespace Ricochet

/-! ## The demo's side: frames without input -/

/-- A frame without input advances a show that is not paused. -/
theorem BallShow.step_empty {b : BallShow Float} (h : b.paused = false) :
    (b.step .empty).2 = { b with field := b.field.map Field.step } := by
  obtain ⟨settings, field, paused⟩ := b
  obtain rfl : paused = false := h
  rw [BallShow.step_eq]
  cases field <;> rfl

/-- Frames without input advance a show that is not paused, one step each. -/
theorem BallKind.after_empty_frames (kind : BallKind) {b : BallShow Float} (h : b.paused = false)
    (k : Nat) :
    kind.demo.after b (List.replicate k (.frame .empty))
      = { b with field := b.field.map (Field.steps k) } := by
  induction k generalizing b with
  | zero =>
      obtain ⟨settings, field, paused⟩ := b
      cases field <;> rfl
  | succ k ih =>
      have hfirst : kind.demo.after b (List.replicate (k + 1) (.frame .empty))
          = kind.demo.after (b.step .empty).2 (List.replicate k (.frame .empty)) := rfl
      have hrest := ih (b := { b with field := b.field.map Field.step }) h
      rw [hfirst, BallShow.step_empty h, hrest]
      obtain ⟨settings, field, paused⟩ := b
      cases field <;> rfl

/-- A fresh demo after a successful reset and frames without input. -/
theorem BallKind.field_shown_empty_frames (kind : BallKind) {world : Surroundings}
    {options : RunOptions} {settings : Settings Float} {f : Field Float}
    (h : kind.demo.reset world options kind.demo.fresh = (none, .start settings f)) (k : Nat) :
    (kind.shown (.reset world options :: List.replicate k (.frame .empty))).field
      = some (f.steps k) := by
  have hfirst : kind.shown (.reset world options :: List.replicate k (.frame .empty))
      = kind.demo.after (kind.demo.event kind.demo.fresh (.reset world options)).after
          (List.replicate k (.frame .empty)) := rfl
  rw [hfirst, kind.demo.event_of_reset h, kind.after_empty_frames rfl]
  rfl

namespace Command

/-! ## The flags -/

/-- The check of the flags reads the preset from the name that it keeps. -/
theorem parse_speed_of_shared {p : Parsed} {s : Shared} (h : shared p = .ok s) :
    Preset.parse (Utf8.bytes s.speed) = .ok s.preset := by
  obtain ⟨-, preset, hparse, rfl⟩ := shared_eq_ok_iff.mp h
  exact hparse

/-- The preset that a headless run reads again is the one that demos were told of. -/
theorem tracePreset_of_shared {p : Parsed} {s : Shared} (h : shared p = .ok s) :
    s.tracePreset = s.preset := by
  unfold Shared.tracePreset
  rw [parse_speed_of_shared h]

/-! ## The field of a headless run -/

/-- A headless run makes the field that a demo prepares from the same flags, or fails alike. -/
theorem traceField_eq_map_prepare {p : Parsed} {s : Shared} (h : shared p = .ok s) (files : Files)
    (id : String) (seed : Int) :
    traceField s files id seed = (prepare (s.surroundings files) id seed).map (·.2) := by
  -- The run reads the preset again from its name, which the check of the flags has kept.
  unfold traceField prepare
  rw [tracePreset_of_shared h]
  simp only [Shared.surroundings]
  cases Settings.load files id s.configPath with
  | error e => rfl
  | ok loaded =>
      simp only
      cases (s.preset.apply loaded).buildSeeded seed with
      | error e => rfl
      | ok f => rfl

theorem traceField_eq_error_iff (kind : BallKind) {p : Parsed} {s : Shared}
    (h : shared p = .ok s) (files : Files) (seed : Int) (b : BallShow Float) (e : PrepareError) :
    traceField s files kind.id seed = .error e
      ↔ (b.reset kind (s.surroundings files) seed).1 = some e := by
  rw [traceField_eq_map_prepare h, BallShow.reset]
  cases prepare (s.surroundings files) kind.id seed with
  | error e' => simp [Except.map]
  | ok made => simp [Except.map]

/-- The field of a headless run is the field that a reset starts with. -/
theorem reset_of_traceField {kind : BallKind} {p : Parsed} {s : Shared} (h : shared p = .ok s)
    {files : Files} {seed : Int} {f : Field Float} (hf : traceField s files kind.id seed = .ok f)
    (b : BallShow Float) :
    ∃ settings, b.reset kind (s.surroundings files) seed = (none, .start settings f) := by
  rw [traceField_eq_map_prepare h] at hf
  rw [BallShow.reset]
  cases hprepare : prepare (s.surroundings files) kind.id seed with
  | error e =>
      rw [hprepare] at hf
      cases hf
  | ok made =>
      rw [hprepare] at hf
      cases hf
      exact ⟨made.1, rfl⟩

/-- A headless run that is ready to start has logged into the files that its settings came from. -/
theorem traceField_of_readyTrace {env : Environment} {s : Shared} {o : TraceOptions} {id : String}
    {ready : TraceStart} (h : readyTrace env s o id = .ok ready) :
    openLog env s false = .ok ready.log
      ∧ traceField s ready.log.files id (s.seedOr env.now) = .ok ready.field := by
  unfold readyTrace at h
  split at h
  · cases h
  · cases hlog : openLog env s false with
    | error e => rw [hlog] at h; cases h
    | ok log =>
        rw [hlog] at h
        simp only at h
        cases hf : traceField s log.files id (s.seedOr env.now) with
        | error e => rw [hf] at h; cases h
        | ok f =>
            rw [hf] at h
            cases h
            exact ⟨rfl, hf⟩

/-- The run of the command ends: it is interrupted when the patience of its environment is used up,
if not before. -/
theorem run_traceRun (env : Environment) (o : TraceOptions) (f : Field Float) :
    o.stage.run o.steps (fun k => if k < env.patience then .proceed else .cancelled) env.patience
        ⟨f, ⟨.empty none, 0⟩⟩
      = some (traceRun env o f) := by
  obtain ⟨q, hq⟩ := o.stage.exists_run_cancelled o.steps
    (fun k => if k < env.patience then .proceed else .cancelled) (m := env.patience)
    ⟨f, ⟨.empty none, 0⟩⟩ (if_neg (Nat.lt_irrefl _))
  rw [hq]
  unfold traceRun
  simp only [hq, Option.getD_some]

/-- **Headless runs and demos run the same simulation.** Take flags that pass the check, with a seed
that is not zero, and any files.

* The field of the headless run fails to be made exactly when a reset of the demo fails, and with
  the same error.
* If it is made, then whatever the renderer, the budget and the interruptions, the balls handed to
  the renderer in frame `k` are those of a demo that was reset and then stepped `k` times without
  input. A run reports its frames modulo `2^64`, and all of them if it has a budget; then it ends
  within the budget, and uses it up if nothing stops it.
* The run that the command makes is such a run, of such a field. -/
theorem headless_run_shows_demo (kind : BallKind) {p : Parsed} {s : Shared} (hs : shared p = .ok s)
    (hseed : s.seed ≠ 0) (files : Files) (now : Int) (options : RunOptions) (ρ ε : Type) :
    (∀ e, traceField s files kind.id (s.seedOr now) = .error e ↔
        (kind.demo.reset (s.surroundings files) { options with seed := s.seed } kind.demo.fresh).1
          = some e)
    ∧ (∀ f, traceField s files kind.id (s.seedOr now) = .ok f →
        ∀ (draw : Run.Renderer ρ ε Float) (r : ρ) (n : UInt64) (signals : Nat → Run.Signal),
          (∀ fuel q, (Run.Stage.live draw).run n signals fuel ⟨f, r⟩ = some q →
            ∃ notes,
              (Run.Stage.live (Run.recording draw)).run n signals fuel ⟨f, ([], r)⟩
                = some (q.noting notes)
              ∧ q.frames.toNat = notes.length % 2 ^ 64
              ∧ (n ≠ 0 → q.frames.toNat = notes.length)
              ∧ ∀ k, 1 ≤ k → k ≤ notes.length → ∃ g,
                  (kind.shown (.reset (s.surroundings files) { options with seed := s.seed }
                    :: List.replicate k (.frame .empty))).field = some g
                  ∧ notes[k - 1]? = some (g.domain, g.balls))
          ∧ (n ≠ 0 → ∃ q, (Run.Stage.live draw).run n signals n.toNat ⟨f, r⟩ = some q
              ∧ q.frames ≤ n
              ∧ ((∀ k < n.toNat, signals k = .proceed) →
                (∀ r d balls, (draw r d balls).2 = none) → q.frames = n)))
    ∧ ∀ (env : Environment) (o : TraceOptions) (ready : TraceStart),
        readyTrace env s o kind.id = .ok ready →
          traceField s ready.log.files kind.id (s.seedOr env.now) = .ok ready.field
          ∧ ∃ signals, (Run.Stage.live (Run.Trace.draw Run.Page.write o.format)).run o.steps signals
              env.patience ⟨ready.field, ⟨.empty none, 0⟩⟩
                = some (traceRun env o ready.field) := by
  have hseedOr : ∀ now, s.seedOr now = s.seed := fun now => if_neg hseed
  refine ⟨fun e => ?_, fun f hf draw r n signals => ⟨fun fuel q hq => ?_, fun hn => ?_⟩,
    fun env o ready hready => ?_⟩
  · rw [hseedOr]
    exact traceField_eq_error_iff kind hs files s.seed _ e
  · rw [hseedOr] at hf
    obtain ⟨settings, hstart⟩ := reset_of_traceField hs hf kind.demo.fresh
    have hreset : kind.demo.reset (s.surroundings files) { options with seed := s.seed }
        kind.demo.fresh = (none, .start settings f) := hstart
    obtain ⟨m, hframes, hbudget, hrecorded⟩ := Run.Stage.run_recording draw n signals f r hq
    refine ⟨_, hrecorded, ?_, fun hn => ?_, fun k hk hkm => ?_⟩
    · rw [hframes, List.length_map, List.length_range]
      exact UInt64.toNat_ofNat'
    · rw [hframes, List.length_map, List.length_range]
      exact Run.toNat_ofNat_of_le (hbudget hn)
    · refine ⟨f.steps k, kind.field_shown_empty_frames hreset k, ?_⟩
      -- Frame `k` is drawn after `k` steps and its note stands at place `k - 1`.
      rw [List.length_map, List.length_range] at hkm
      have hnote : (List.range m)[k - 1]? = some (k - 1) := List.getElem?_range (by omega)
      simp only [List.getElem?_map, hnote, Option.map_some, Nat.sub_add_cancel hk, Run.handed]
  · obtain ⟨q, hq⟩ := (Run.Stage.live draw).exists_run_budget n signals hn ⟨f, r⟩
    obtain ⟨m, hframes, hbudget, -⟩ := Run.Stage.run_recording draw n signals f r hq
    refine ⟨q, hq, ?_, fun hsignals hdraw =>
      Run.Stage.frames_eq_budget draw n signals f r hn hsignals hdraw hq⟩
    rw [hframes, UInt64.le_iff_toNat_le, Run.toNat_ofNat_of_le (hbudget hn)]
    exact hbudget hn
  · exact ⟨(traceField_of_readyTrace hready).2, _, run_traceRun env o ready.field⟩

/-- Flags that choose a file, a preset and a seed. -/
def chosenFlags : Parsed :=
  { flags := [("config", .text "f"), ("speed", .text "fast"), ("seed", .signed 7)]
    arguments := [] }

/-- The chosen flags pass the check and their field is made. A run of three frames then hands out
the balls of the demo after one, two and three frames. -/
theorem headless_run_shows_demo_three_frames :
    ∃ (s : Shared) (f : Field Float) (q : Run.Progress (Run.Scene Unit Float) Empty)
      (notes : List (Run.Handed Float)), shared chosenFlags = .ok s ∧ s.seed ≠ 0
      ∧ traceField s (BallKind.scriptWorld "f").files BallKind.single.id (s.seedOr 0) = .ok f
      ∧ (Run.Stage.live (Run.recording fun _ _ _ => ((), none))).run 3 (fun _ => .proceed) 3
          ⟨f, ([], ())⟩ = some (q.noting notes)
      ∧ q.frames = 3 ∧ notes.length = 3
      ∧ ∀ k, 1 ≤ k → k ≤ 3 → ∃ g,
          (BallKind.single.shown (.reset (s.surroundings (BallKind.scriptWorld "f").files)
            { RunOptions.default with seed := s.seed }
            :: List.replicate k (.frame .empty))).field = some g
          ∧ notes[k - 1]? = some (g.domain, g.balls) := by
  have hs : ∃ s : Shared, shared chosenFlags = .ok s ∧ s.seed ≠ 0
      ∧ (traceField s (BallKind.scriptWorld "f").files BallKind.single.id
          (s.seedOr 0)).toOption.isSome = true := by
    refine ⟨⟨0, 7, "f", "fast", .fast, "info", ""⟩, ?_, ?_, ?_⟩
    · decide +kernel
    · decide
    · decide +kernel
  obtain ⟨s, hs, hseed, hsome⟩ := hs
  cases hf : traceField s (BallKind.scriptWorld "f").files BallKind.single.id (s.seedOr 0) with
  | error e => rw [hf] at hsome; cases hsome
  | ok f =>
      have hall := (headless_run_shows_demo .single hs hseed (BallKind.scriptWorld "f").files 0
        .default Unit Empty).2.1 f hf (fun _ _ _ => ((), none)) () 3 fun _ => .proceed
      obtain ⟨q, hq, -, hundisturbed⟩ := hall.2 (by decide)
      have hframes : q.frames = 3 := hundisturbed (fun _ _ => rfl) fun _ _ _ => rfl
      obtain ⟨notes, hnotes, -, hcount, hballs⟩ := hall.1 3 q hq
      have hlength : 3 = notes.length := by
        rw [← hcount (by decide), hframes]
        rfl
      rw [← hlength] at hballs
      exact ⟨s, f, q, notes, hs, hseed, hf, hnotes, hframes, hlength.symm, hballs⟩

end Command

end Ricochet
