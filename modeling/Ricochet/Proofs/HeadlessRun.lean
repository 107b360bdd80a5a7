import Mathlib.Data.Nat.Find
import Mathlib.Logic.Function.Iterate
import Ricochet.Run.Headless
import Ricochet.Proofs.FieldRun

set_option autoImplicit false

/-! # What a headless run hands to its renderer

A run that ends is the iterate of one frame, stopped where it first has to (`Stage.run_eq_some`).
What the renderer is given cannot be seen from the outside, so it is made to keep notes: a
`recording` renderer draws as before and writes down the domain and the balls of every frame. The
notes do not change the run, and they hold the field after one step, after two steps, and so on
(`Stage.run_recording`).
-/

namespace Ricochet.Run

variable {α ρ ε ω : Type}

/-- Up to the budget, the count of frames has not started again. -/
theorem toNat_ofNat_of_le {budget : UInt64} {k : Nat} (h : k ≤ budget.toNat) :
    (UInt64.ofNat k).toNat = k :=
  UInt64.toNat_ofNat_of_lt' (lt_of_le_of_lt h budget.toNat_lt)

/-! ## Runs on any stage -/

namespace Stage

variable (g : Stage ω ε α) (budget : UInt64) (signals : Nat → Signal)

/-- Frames are counted modulo the size of a word. -/
theorem frames_iterate (k : Nat) (w : ω) :
    (g.frame^[k] (.start w)).frames = UInt64.ofNat k := by
  induction k with
  | zero => rfl
  | succ k ih =>
      have hframe : (g.frame (g.frame^[k] (.start w))).frames
          = (g.frame^[k] (.start w)).frames + 1 := rfl
      rw [Function.iterate_succ_apply', hframe, ih, UInt64.ofNat_add]
      rfl

/-- A run that ends has run frames up to the first point where it has to end. -/
theorem runFrom_eq_some {fuel n : Nat} {p q : Progress ω ε} :
    g.runFrom budget signals fuel n p = some q ↔
      ∃ k ≤ fuel, q = g.frame^[k] p ∧ q.ended budget (signals (n + k)) = true
        ∧ ∀ j < k, (g.frame^[j] p).ended budget (signals (n + j)) = false := by
  induction fuel generalizing n p with
  | zero =>
      rw [runFrom]
      constructor
      · intro h
        split at h
        · rename_i hend
          cases h
          exact ⟨0, Nat.le_refl 0, rfl, hend, fun j hj => absurd hj (Nat.not_lt_zero j)⟩
        · cases h
      · rintro ⟨k, hk, rfl, hend, -⟩
        obtain rfl : k = 0 := Nat.le_zero.mp hk
        exact if_pos hend
  | succ fuel ih =>
      rw [runFrom]
      constructor
      · intro h
        split at h
        · rename_i hend
          cases h
          exact ⟨0, Nat.zero_le _, rfl, hend, fun j hj => absurd hj (Nat.not_lt_zero j)⟩
        · -- The first frame is run, so the rest ends one frame earlier.
          rename_i hgoes
          obtain ⟨k, hk, hq, hend, hbefore⟩ := ih.mp h
          rw [Nat.add_right_comm] at hend
          refine ⟨k + 1, Nat.succ_le_succ hk, hq, hend, ?_⟩
          intro j hj
          cases j with
          | zero => exact Bool.eq_false_iff.mpr hgoes
          | succ j =>
              have hgoes := hbefore j (Nat.lt_of_succ_lt_succ hj)
              rw [Nat.add_right_comm] at hgoes
              exact hgoes
      · rintro ⟨k, hk, rfl, hend, hbefore⟩
        cases k with
        | zero => exact if_pos hend
        | succ k =>
            have hgoes : p.ended budget (signals n) = false := hbefore 0 (Nat.succ_pos k)
            rw [if_neg (Bool.eq_false_iff.mp hgoes)]
            refine ih.mpr ⟨k, Nat.le_of_succ_le_succ hk, rfl, ?_, fun j hj => ?_⟩
            · rw [Nat.add_right_comm]
              exact hend
            · rw [Nat.add_right_comm]
              exact hbefore (j + 1) (Nat.succ_lt_succ hj)

theorem run_eq_some {fuel : Nat} {w : ω} {q : Progress ω ε} :
    g.run budget signals fuel w = some q ↔
      ∃ k ≤ fuel, q = g.frame^[k] (.start w) ∧ q.ended budget (signals k) = true
        ∧ ∀ j < k, (g.frame^[j] (.start w)).ended budget (signals j) = false := by
  rw [run, runFrom_eq_some]
  simp only [Nat.zero_add]

/-- A run ends within `m` frames if it would have to end after `m` of them. -/
theorem exists_run {m : Nat} {w : ω}
    (hlast : (g.frame^[m] (.start w)).ended budget (signals m) = true) :
    ∃ q, g.run budget signals m w = some q := by
  have hfirst : ∃ k, (g.frame^[k] (.start w)).ended budget (signals k) = true := ⟨m, hlast⟩
  refine ⟨_, (g.run_eq_some budget signals).mpr
    ⟨Nat.find hfirst, Nat.find_min' hfirst hlast, rfl, Nat.find_spec hfirst, ?_⟩⟩
  intro j hj
  exact Bool.eq_false_iff.mpr (Nat.find_min hfirst hj)

/-- A run with a budget ends, at the latest when the budget is used up. -/
theorem exists_run_budget (hbudget : budget ≠ 0) (w : ω) :
    ∃ q, g.run budget signals budget.toNat w = some q := by
  apply exists_run
  simp [Progress.ended, frames_iterate, hbudget]

/-- A run that is cancelled after `m` frames ends by then. -/
theorem exists_run_cancelled {m : Nat} (w : ω) (hcancelled : signals m = .cancelled) :
    ∃ q, g.run budget signals m w = some q := by
  apply exists_run
  simp [Progress.ended, hcancelled]

/-- A run that has not ended before its frame `k` has a budget for it. -/
theorem le_budget_of_goes (hbudget : budget ≠ 0) {k : Nat} {w : ω}
    (hbefore : ∀ j < k, (g.frame^[j] (.start w)).ended budget (signals j) = false) :
    k ≤ budget.toNat := by
  by_contra hlt
  have hgoes := hbefore budget.toNat (by omega)
  simp [Progress.ended, frames_iterate, hbudget] at hgoes

end Stage

/-! ## Fields under observation -/

/-- What a renderer is given for one frame. -/
abbrev Handed (α : Type) : Type := Domain α × List (Ball α)

/-- What a renderer is given of a field. -/
def handed (f : Field α) : Handed α := (f.domain, f.balls)

/-- The renderer that also notes what it is given. -/
def recording (draw : Renderer ρ ε α) : Renderer (List (Handed α) × ρ) ε α :=
  fun (notes, r) d balls => ((notes ++ [(d, balls)], (draw r d balls).1), (draw r d balls).2)

/-- A run whose renderer has kept notes. -/
def Progress.noting (p : Progress (Scene ρ α) ε) (notes : List (Handed α)) :
    Progress (Scene (List (Handed α) × ρ) α) ε :=
  ⟨⟨p.world.field, (notes, p.world.renderer)⟩, p.frames, p.failure⟩

namespace Stage

variable [Scalar α] (draw : Renderer ρ ε α) (budget : UInt64) (signals : Nat → Signal)
  (f : Field α) (r : ρ)

theorem field_iterate (k : Nat) (p : Progress (Scene ρ α) ε) :
    ((live draw).frame^[k] p).world.field = p.world.field.steps k := by
  induction k with
  | zero => rfl
  | succ k ih =>
      rw [Function.iterate_succ_apply', Field.steps_succ, ← ih]
      rfl

/-- One frame under observation: the same frame, and one note. -/
theorem frame_noting (p : Progress (Scene ρ α) ε) (notes : List (Handed α)) :
    (live (recording draw)).frame (p.noting notes)
      = ((live draw).frame p).noting (notes ++ [handed p.world.field.step]) := rfl

theorem iterate_noting (k : Nat) :
    (live (recording draw)).frame^[k] (.start ⟨f, ([], r)⟩)
      = ((live draw).frame^[k] (.start ⟨f, r⟩)).noting
          ((List.range k).map fun j => handed (f.steps (j + 1))) := by
  induction k with
  | zero => rfl
  | succ k ih =>
      rw [Function.iterate_succ_apply', ih, frame_noting, field_iterate,
        Function.iterate_succ_apply', List.range_succ, List.map_append, ← Field.steps_succ]
      rfl

/-- **Observed runs.** A renderer that keeps notes makes the same run, and its notes are the fields
after one step, after two, and so on, one for each frame. -/
theorem run_recording {fuel : Nat} {q : Progress (Scene ρ α) ε}
    (h : (live draw).run budget signals fuel ⟨f, r⟩ = some q) :
    ∃ k, q.frames = UInt64.ofNat k ∧ (budget ≠ 0 → k ≤ budget.toNat)
      ∧ (live (recording draw)).run budget signals fuel ⟨f, ([], r)⟩
        = some (q.noting ((List.range k).map fun j => handed (f.steps (j + 1)))) := by
  obtain ⟨k, hk, rfl, hend, hbefore⟩ := ((live draw).run_eq_some budget signals).mp h
  refine ⟨k, frames_iterate _ k _, fun hbudget => le_budget_of_goes _ _ signals hbudget hbefore, ?_⟩
  rw [run_eq_some]
  refine ⟨k, hk, (iterate_noting draw f r k).symm, hend, fun j hj => ?_⟩
  rw [iterate_noting]
  exact hbefore j hj

/-- A run that is neither cancelled nor fails to draw uses up its budget. -/
theorem frames_eq_budget (hbudget : budget ≠ 0) {fuel : Nat} {q : Progress (Scene ρ α) ε}
    (hsignals : ∀ k < budget.toNat, signals k = .proceed)
    (hdraw : ∀ r d balls, (draw r d balls).2 = none)
    (h : (live draw).run budget signals fuel ⟨f, r⟩ = some q) : q.frames = budget := by
  obtain ⟨k, -, rfl, hend, hbefore⟩ := ((live draw).run_eq_some budget signals).mp h
  have hle : k ≤ budget.toNat := le_budget_of_goes _ _ signals hbudget hbefore
  have hfailure : ((live draw).frame^[k] (.start ⟨f, r⟩)).failure = none := by
    cases k with
    | zero => rfl
    | succ k =>
        rw [Function.iterate_succ_apply']
        simp [frame, live, hdraw]
  rw [frames_iterate]
  by_cases hlast : k = budget.toNat
  · rw [hlast, UInt64.ofNat_toNat]
  · -- Before its budget is used up, nothing ends the run.
    have hproceed := hsignals k (by omega)
    have hcount : ¬ budget ≤ UInt64.ofNat k := by
      rw [UInt64.le_iff_toNat_le, toNat_ofNat_of_le hle]
      omega
    simp [Progress.ended, hfailure, frames_iterate, hproceed, hcount] at hend

end Stage

end Ricochet.Run
