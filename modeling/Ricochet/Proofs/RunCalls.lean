import Mathlib.Algebra.Group.Nat.Defs
import Mathlib.Order.Bounds.Basic
import Ricochet.Proofs.HeadlessRun

set_option autoImplicit false

/-! # The calls of a headless run

A run makes two kinds of calls, a step of the field and a drawing of what the field then shows. A
run ends at the first point where its budget is used up, the environment cancels it, or a drawing
has failed, and these may coincide. What the renderer answers does not depend on where the run ends
(`answer`), so the number of frames is the least of three numbers that are given beforehand
(`stops`). The run itself counts its frames in a word, and so modulo `2^64`.

The steps of a run cannot be seen in its result. But the loop runs on any stage, and so on one that
writes down its calls (`Stage.logged`): there it gives the same result and all calls in their order
(`Stage.iterate_logged`).
-/

namespace Ricochet.Run

variable {α ρ ε ω : Type}

/-! ## Where a run ends -/

/-- Where a run could end: at its budget, when it is cancelled, and after a drawing that fails.
Drawings are numbered from zero, so that number `j` is part of the frame `j + 1`. -/
def stops (budget : UInt64) (signals : Nat → Signal) (answers : Nat → Option ε) : Set Nat :=
  { k | (budget ≠ 0 ∧ k = budget.toNat) ∨ signals k = .cancelled
    ∨ ∃ j, k = j + 1 ∧ (answers j).isSome = true }

/-- Whether a run has to end after `k` frames, if it has got that far. -/
def Ends (budget : UInt64) (signals : Nat → Signal) (answers : Nat → Option ε) (k : Nat) : Prop :=
  (budget ≠ 0 ∧ budget ≤ UInt64.ofNat k) ∨ signals k = .cancelled
    ∨ ∃ j, k = j + 1 ∧ (answers j).isSome = true

theorem budget_le_ofNat_iff {budget : UInt64} {k : Nat} (h : k ≤ budget.toNat) :
    budget ≤ UInt64.ofNat k ↔ k = budget.toNat := by
  rw [UInt64.le_iff_toNat_le, toNat_ofNat_of_le h]
  omega

/-- The first stop is the first point where the run has to end. Beyond its budget a run would have
to end too, but it has met the budget itself before. -/
theorem isLeast_stops_iff {budget : UInt64} {signals : Nat → Signal} {answers : Nat → Option ε}
    {k : Nat} :
    IsLeast (stops budget signals answers) k
      ↔ Ends budget signals answers k ∧ ∀ j < k, ¬ Ends budget signals answers j := by
  have hends : ∀ n ∈ stops budget signals answers, Ends budget signals answers n := by
    rintro n (⟨hbudget, rfl⟩ | hother)
    · exact .inl ⟨hbudget, (budget_le_ofNat_iff le_rfl).mpr rfl⟩
    · exact .inr hother
  constructor
  · rintro ⟨hk, hlow⟩
    refine ⟨hends k hk, ?_⟩
    rintro j hj (⟨hbudget, hle⟩ | hother)
    · have hkbudget : k ≤ budget.toNat := hlow (.inl ⟨hbudget, rfl⟩)
      have hjbudget := (budget_le_ofNat_iff (by omega)).mp hle
      omega
    · have : k ≤ j := hlow (.inr hother)
      omega
  · rintro ⟨hk, hbefore⟩
    refine ⟨?_, fun n hn => not_lt.mp fun hlt => hbefore n hlt (hends n hn)⟩
    rcases hk with ⟨hbudget, hle⟩ | hother
    · have hge : ¬ budget.toNat < k := fun hlt =>
        hbefore budget.toNat hlt (.inl ⟨hbudget, (budget_le_ofNat_iff le_rfl).mpr rfl⟩)
      exact .inl ⟨hbudget, (budget_le_ofNat_iff (by omega)).mp hle⟩
    · exact .inr hother

section Answers

variable [Scalar α] (draw : Renderer ρ ε α) (f : Field α) (r : ρ)

/-- The renderer after `k` drawings, whatever it answered. -/
def rendererAfter : Nat → ρ
  | 0 => r
  | k + 1 => (draw (rendererAfter k) (f.steps (k + 1)).domain (f.steps (k + 1)).balls).1

/-- What the renderer answers to the drawing number `k`. -/
def answer (k : Nat) : Option ε :=
  (draw (rendererAfter draw f r k) (f.steps (k + 1)).domain (f.steps (k + 1)).balls).2

/-- The failure that a run has met after `k` frames: that of the last drawing. -/
def failureAfter : Nat → Option (DrawFailure ε)
  | 0 => none
  | k + 1 => (answer draw f r k).map fun e => ⟨(f.steps (k + 1)).tick, e⟩

theorem isSome_failureAfter (k : Nat) :
    (failureAfter draw f r k).isSome = true
      ↔ ∃ j, k = j + 1 ∧ (answer draw f r j).isSome = true := by
  cases k with
  | zero => simp [failureAfter]
  | succ k => simp [failureAfter]

theorem failureAfter_eq_some_iff (k : Nat) (failure : DrawFailure ε) :
    failureAfter draw f r k = some failure ↔ ∃ j, k = j + 1
      ∧ answer draw f r j = some failure.error ∧ failure.tick = (f.steps k).tick := by
  cases k with
  | zero => simp [failureAfter]
  | succ k =>
      rw [failureAfter, Option.map_eq_some_iff]
      constructor
      · rintro ⟨e, he, rfl⟩
        exact ⟨k, rfl, he, rfl⟩
      · rintro ⟨j, hj, he, htick⟩
        obtain rfl : k = j := Nat.succ_inj.mp hj
        refine ⟨failure.error, he, ?_⟩
        rw [← htick]

/-- At its first stop a run has met no failure but that of the last drawing. -/
theorem failureAfter_eq_none_iff {budget : UInt64} {signals : Nat → Signal} {k : Nat}
    (h : IsLeast (stops budget signals (answer draw f r)) k) :
    failureAfter draw f r k = none ↔ ∀ j < k, answer draw f r j = none := by
  rw [← Option.not_isSome_iff_eq_none, isSome_failureAfter]
  constructor
  · intro hlast j hj
    rw [← Option.not_isSome_iff_eq_none]
    intro hfailed
    have hle : k ≤ j + 1 := h.2 (.inr (.inr ⟨j, rfl, hfailed⟩))
    exact hlast ⟨j, by omega, hfailed⟩
  · rintro hall ⟨j, rfl, hfailed⟩
    rw [hall j (Nat.lt_succ_self j)] at hfailed
    cases hfailed

end Answers

/-! ## The calls -/

/-- A call that a run makes. -/
inductive Call (α : Type) where
  | step
  | draw (given : Handed α)
  deriving DecidableEq

/-- The calls of the first `k` frames: a step and a drawing for each, and each drawing is given the
field after one step more. -/
def calls [Scalar α] (f : Field α) (k : Nat) : List (Call α) :=
  (List.range k).flatMap fun j => [.step, .draw (handed (f.steps (j + 1)))]

theorem calls_succ [Scalar α] (f : Field α) (k : Nat) :
    calls f (k + 1) = calls f k ++ [.step, .draw (handed (f.steps (k + 1)))] := by
  rw [calls, List.range_succ, List.flatMap_append, List.flatMap_singleton]
  rfl

namespace Stage

/-- The stage that also writes down its calls. -/
def logged (g : Stage ω ε α) : Stage (List (Call α) × ω) ε α where
  step w := (w.1 ++ [.step], g.step w.2)
  field w := g.field w.2
  draw d balls w :=
    ((w.1 ++ [.draw (d, balls)], (g.draw d balls w.2).1), (g.draw d balls w.2).2)

variable [Scalar α] (draw : Renderer ρ ε α) (f : Field α) (r : ρ)

/-- A run after `k` frames, if it gets that far. -/
theorem iterate_live (k : Nat) :
    (live draw).frame^[k] (.start ⟨f, r⟩)
      = ⟨⟨f.steps k, rendererAfter draw f r k⟩, UInt64.ofNat k, failureAfter draw f r k⟩ := by
  induction k with
  | zero => rfl
  | succ k ih =>
      rw [Function.iterate_succ_apply', ih, UInt64.ofNat_add, rendererAfter, failureAfter, answer,
        Field.steps_succ]
      rfl

/-- The same with its calls. -/
theorem iterate_logged (k : Nat) :
    (live draw).logged.frame^[k] (.start ([], ⟨f, r⟩))
      = ⟨(calls f k, ⟨f.steps k, rendererAfter draw f r k⟩), UInt64.ofNat k,
        failureAfter draw f r k⟩ := by
  induction k with
  | zero => rfl
  | succ k ih =>
      have hcalls : calls f (k + 1)
          = (calls f k ++ [.step]) ++ [.draw (handed (f.steps (k + 1)))] := by
        rw [calls_succ, List.append_assoc]
        rfl
      rw [Function.iterate_succ_apply', ih, hcalls, UInt64.ofNat_add, rendererAfter, failureAfter,
        answer, Field.steps_succ]
      rfl

variable (budget : UInt64) (signals : Nat → Signal)

/-- A run on a stage on which drawings fail as on the live one ends at its first stop. -/
theorem run_iff_isLeast {g : Stage ω ε α} {w : ω}
    (hfailure : ∀ k, (g.frame^[k] (.start w)).failure = failureAfter draw f r k) {fuel : Nat}
    {q : Progress ω ε} :
    g.run budget signals fuel w = some q ↔
      ∃ k ≤ fuel, IsLeast (stops budget signals (answer draw f r)) k
        ∧ q = g.frame^[k] (.start w) := by
  have hends : ∀ k, (g.frame^[k] (.start w)).ended budget (signals k) = true
      ↔ Ends budget signals (answer draw f r) k := by
    intro k
    rw [Ends, ← isSome_failureAfter, ← hfailure, ← g.frames_iterate k w]
    simp only [Progress.ended, Bool.or_eq_true, Bool.and_eq_true, decide_eq_true_eq, ne_eq]
    tauto
  rw [run_eq_some]
  refine exists_congr fun k => and_congr_right fun hk => ?_
  rw [isLeast_stops_iff, ← hends]
  constructor
  · rintro ⟨rfl, hend, hbefore⟩
    refine ⟨⟨hend, fun j hj h => ?_⟩, rfl⟩
    rw [← hends, hbefore j hj] at h
    cases h
  · rintro ⟨⟨hend, hbefore⟩, rfl⟩
    refine ⟨rfl, hend, fun j hj => ?_⟩
    rw [Bool.eq_false_iff, ne_eq, hends]
    exact hbefore j hj

/-- **How a run ends.** It ends at its first stop, in the state it has after so many frames. -/
theorem run_live_iff {fuel : Nat} {q : Progress (Scene ρ α) ε} :
    (live draw).run budget signals fuel ⟨f, r⟩ = some q ↔
      ∃ k ≤ fuel, IsLeast (stops budget signals (answer draw f r)) k
        ∧ q = ⟨⟨f.steps k, rendererAfter draw f r k⟩, UInt64.ofNat k, failureAfter draw f r k⟩ := by
  rw [run_iff_isLeast draw f r budget signals fun k => by rw [iterate_live]]
  simp only [iterate_live]

/-- **The calls of a run**: writing them down does not change it, and they are a step and a drawing
for each frame. -/
theorem run_logged {fuel k : Nat} (hk : k ≤ fuel)
    (h : IsLeast (stops budget signals (answer draw f r)) k) :
    (live draw).logged.run budget signals fuel ([], ⟨f, r⟩)
      = some ⟨(calls f k, ⟨f.steps k, rendererAfter draw f r k⟩), UInt64.ofNat k,
        failureAfter draw f r k⟩ := by
  rw [run_iff_isLeast draw f r budget signals fun k => by rw [iterate_logged]]
  exact ⟨k, hk, h, (iterate_logged draw f r k).symm⟩

/-- A run ends if and only if there is somewhere to end. -/
theorem exists_run_iff :
    (∃ fuel q, (live draw).run budget signals fuel ⟨f, r⟩ = some q)
      ↔ (stops budget signals (answer draw f r)).Nonempty := by
  constructor
  · rintro ⟨fuel, q, h⟩
    obtain ⟨k, -, hleast, -⟩ := (run_live_iff draw f r budget signals).mp h
    exact ⟨k, hleast.1⟩
  · intro h
    classical
    have hleast : IsLeast (stops budget signals (answer draw f r)) (Nat.find h) :=
      ⟨Nat.find_spec h, fun n hn => Nat.find_min' h hn⟩
    exact ⟨_, _, (run_live_iff draw f r budget signals).mpr ⟨_, le_rfl, hleast, rfl⟩⟩

end Stage

namespace Progress

open Stage (live)

/-- **Headless runs.** A run ends if and only if it has a stop: its budget, a cancelled frame or a
drawing that fails. A run that ends has run `k` frames, up to the first stop, and reports `k` modulo
`2^64`, which is `k` itself if there is a budget. It made one step and one drawing for each frame,
in turn, and each drawing was given domain and balls after as many steps as it has frames before and
with it; this is what the same loop writes down on a stage that logs its calls. There is a failure
if and only if the last drawing failed, and it holds the error of that drawing and the tick of the
field; a run none of whose drawings failed has none, however it ended. Any two runs of a field that
end after the same number of frames leave the same field, whoever draws and whatever ends them. -/
theorem run_steps_then_draws [Scalar α] (draw : Renderer ρ ε α) (budget : UInt64)
    (signals : Nat → Signal) (f : Field α) (r : ρ) :
    ((∃ fuel q, (live draw).run budget signals fuel ⟨f, r⟩ = some q)
      ↔ (stops budget signals (answer draw f r)).Nonempty)
    ∧ ∀ fuel q, (live draw).run budget signals fuel ⟨f, r⟩ = some q →
      ∃ k, IsLeast (stops budget signals (answer draw f r)) k
      ∧ q.frames.toNat = k % 2 ^ 64 ∧ (budget ≠ 0 → q.frames.toNat = k)
      ∧ (live draw).logged.run budget signals fuel ([], ⟨f, r⟩)
        = some ⟨(calls f k, q.world), q.frames, q.failure⟩
      ∧ q.world.field = f.steps k
      ∧ (∀ failure, q.failure = some failure ↔ ∃ j, k = j + 1
          ∧ answer draw f r j = some failure.error ∧ failure.tick = q.world.field.tick)
      ∧ (q.failure = none ↔ ∀ j < k, answer draw f r j = none)
      ∧ ∀ (ρ' ε' : Type) (draw' : Renderer ρ' ε' α) (budget' : UInt64) (signals' : Nat → Signal)
          (r' : ρ') (fuel' : Nat) (q' : Progress (Scene ρ' α) ε'),
          (live draw').run budget' signals' fuel' ⟨f, r'⟩ = some q' →
          IsLeast (stops budget' signals' (answer draw' f r')) k →
          q'.world.field = q.world.field := by
  refine ⟨Stage.exists_run_iff draw f r budget signals, fun fuel q h => ?_⟩
  obtain ⟨k, hk, hleast, rfl⟩ := (Stage.run_live_iff draw f r budget signals).mp h
  refine ⟨k, hleast, UInt64.toNat_ofNat', fun hbudget => ?_,
    Stage.run_logged draw f r budget signals hk hleast, rfl, ?_, ?_, ?_⟩
  · have hle : k ≤ budget.toNat := hleast.2 (.inl ⟨hbudget, rfl⟩)
    exact toNat_ofNat_of_le hle
  · exact fun failure => failureAfter_eq_some_iff draw f r k failure
  · exact failureAfter_eq_none_iff draw f r hleast
  · intro ρ' ε' draw' budget' signals' r' fuel' q' h' hleast'
    obtain ⟨k', -, hfirst, rfl⟩ := (Stage.run_live_iff draw' f r' budget' signals').mp h'
    obtain rfl : k' = k := hfirst.unique hleast'
    rfl

/-- A renderer that counts its drawings and fails in the third one. -/
def failsThird : Renderer Nat String Float :=
  fun n _ _ => (n + 1, if n = 2 then some "torn" else none)

/-- The environment that cancels a run after three frames. -/
def cancelsThird : Nat → Signal := fun k => if k = 3 then .cancelled else .proceed

/-- A ball one step away from a wall, in a field that has been stepped before. -/
def nearWall : Field Float :=
  { domain := ⟨10, 10⟩
    balls := [{ id := 0, x := ⟨8, 3⟩, y := ⟨5, 0⟩, radius := 1, color := Color.white }]
    tick := 4 }

/-- Budget, failure and cancellation at once: the third drawing fails, in the last frame of the
budget, and the run would be cancelled after it. The run has failed, at tick 7, after six calls. -/
theorem run_steps_then_draws_third :
    ∃ q, (live failsThird).run 3 cancelsThird 3 ⟨nearWall, 0⟩ = some q ∧ q.frames = 3
      ∧ IsLeast (stops 3 cancelsThird (answer failsThird nearWall 0)) 3
      ∧ (live failsThird).logged.run 3 cancelsThird 3 ([], ⟨nearWall, 0⟩)
        = some ⟨([.step, .draw (handed (nearWall.steps 1)), .step,
            .draw (handed (nearWall.steps 2)), .step, .draw (handed (nearWall.steps 3))],
            ⟨nearWall.steps 3, 3⟩), 3, some ⟨7, "torn"⟩⟩ := by
  have hrun : (live failsThird).run 3 cancelsThird 3 ⟨nearWall, 0⟩
      = some ((live failsThird).frame^[3] (.start ⟨nearWall, 0⟩)) := rfl
  obtain ⟨k, hleast, -, hcount, hcalls, -⟩ :=
    (run_steps_then_draws failsThird 3 cancelsThird nearWall 0).2 3 _ hrun
  obtain rfl : 3 = k := hcount (by decide)
  exact ⟨_, hrun, rfl, hleast, hcalls⟩

end Progress

end Ricochet.Run
