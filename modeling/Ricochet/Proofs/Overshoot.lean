import Ricochet.Proofs.Containment

set_option autoImplicit false

/-! # How long an overshoot lasts

Positions are never corrected, so a fast ball can leave the box (`Containment`). Over the rational
numbers it is back after one step, however fast it is: it left by turning round for one wall and
running past the other, so outside it faces away from the box, the way ahead is blocked, and it
turns round again. That undoes the step.

* `Motion.within_or_undone`: one step from inside ends inside, or the next one undoes it.
* `Motion.within_or_within_succ`: in a run, no two consecutive positions are outside.
* `Field.overshoot_lasts_one_step`: the same for every ball of a field built by hand.
-/

namespace Ricochet

/-! ## One axis -/

namespace Motion

variable {L r : Rat} {m : Motion Rat}

/-- A ball that turned round for a wall and ran out of the box on the other side finds the way ahead
blocked. The wall that turned it round gives the sign of its velocity, and with it the side on which
it is out. -/
theorem beyond_of_turned (h : m.Within L r) (hblocked : L - r < m.pos + m.vel ∨ m.pos + m.vel < r)
    (hout : ¬ (⟨m.pos - m.vel, -m.vel⟩ : Motion Rat).Within L r) :
    L - r < m.pos - m.vel + -m.vel ∨ m.pos - m.vel + -m.vel < r := by
  obtain ⟨hlo, hhi⟩ := h
  have hside : m.pos - m.vel < r ∨ L - r < m.pos - m.vel := by
    by_contra hnot
    rw [not_or, not_lt, not_lt] at hnot
    exact hout hnot
  -- In each case one side is impossible, as the ball moved away from it.
  rcases hblocked with hright | hleft
  · have hvel : 0 < m.vel := by linarith
    right
    rcases hside with hpast | hpast
    · linarith
    · linarith
  · have hvel : m.vel < 0 := by linarith
    left
    rcases hside with hpast | hpast
    · linarith
    · linarith

/-- One step from inside ends inside, or the next step undoes it. -/
theorem within_or_undone (h : m.Within L r) :
    (m.advance L r).Within L r ∨ (m.advance L r).advance L r = m := by
  by_cases hblocked : L - r < m.pos + m.vel ∨ m.pos + m.vel < r
  · have hturned : m.advance L r = ⟨m.pos - m.vel, -m.vel⟩ := by rw [advance_eq, if_pos hblocked]
    by_cases hout : (⟨m.pos - m.vel, -m.vel⟩ : Motion Rat).Within L r
    · left
      rw [hturned]
      exact hout
    · right
      rw [hturned, advance_eq, if_pos (beyond_of_turned h hblocked hout), neg_neg,
        sub_neg_eq_add, sub_add_cancel]
  · left
    rw [advance_eq, if_neg hblocked]
    rw [not_or, not_lt, not_lt] at hblocked
    exact ⟨hblocked.2, hblocked.1⟩

/-- **No two positions outside in a row.** A ball that starts inside is inside at least at every
other step of its run. -/
theorem within_or_within_succ (h : m.Within L r) (n : Nat) :
    ((advance L r)^[n] m).Within L r ∨ ((advance L r)^[n + 1] m).Within L r := by
  induction n with
  | zero => exact Or.inl h
  | succ n ih =>
      rcases ih with hin | hin
      · -- The ball was inside one step before, so it is inside now, or the next step takes it back.
        rcases within_or_undone hin with hnow | hback
        · left
          rw [Function.iterate_succ_apply']
          exact hnow
        · right
          rw [Function.iterate_succ_apply', Function.iterate_succ_apply', hback]
          exact hin
      · exact Or.inl hin

/-- Each step of a run that ends outside is undone by the next. -/
theorem iterate_add_two_of_not_within (h : m.Within L r) (n : Nat)
    (hout : ¬ ((advance L r)^[n + 1] m).Within L r) :
    (advance L r)^[n + 2] m = (advance L r)^[n] m := by
  have hin : ((advance L r)^[n] m).Within L r := (within_or_within_succ h n).resolve_right hout
  rw [Function.iterate_succ_apply'] at hout
  rw [Function.iterate_succ_apply', Function.iterate_succ_apply']
  exact (within_or_undone hin).resolve_left hout

end Motion

/-! ## Fields -/

namespace Field

/-- A ball of a field built by hand starts inside on both axes. -/
theorem within_of_ofBalls {d : Domain Rat} {balls : List (Ball Rat)} {f : Field Rat}
    (hf : ofBalls d balls = .ok f) {b : Ball Rat} (hb : b ∈ f.balls) (a : Axis) :
    (b.along a).Within (d.extent a) b.radius := by
  obtain ⟨-, hfits, rfl⟩ := ofBalls_eq_ok.mp hf
  obtain ⟨c, hc, k, rfl⟩ := mem_numberedFrom hb
  exact (Ball.inside_iff d c).mp (hfits c hc).2 a

/-- **An overshoot lasts one step.** In every run of a field built by hand, no ball is outside on an
axis at two consecutive ticks, and a ball that is outside at a tick has, at the next, the position
and the velocity that it had at the one before. -/
theorem overshoot_lasts_one_step {d : Domain Rat} {balls : List (Ball Rat)} {f : Field Rat}
    (hf : ofBalls d balls = .ok f) {i : Nat} (hi : i < balls.length) (a : Axis) (t : Nat) :
    ∃ before now next, (f.steps t).balls[i]? = some before
      ∧ (f.steps (t + 1)).balls[i]? = some now
      ∧ (f.steps (t + 2)).balls[i]? = some next
      ∧ ((before.along a).Within (d.extent a) before.radius
        ∨ (now.along a).Within (d.extent a) now.radius)
      ∧ (¬ (now.along a).Within (d.extent a) now.radius → next.along a = before.along a) := by
  have hdomain : f.domain = d := by
    obtain ⟨-, -, rfl⟩ := ofBalls_eq_ok.mp hf
    rfl
  have hlength : f.balls.length = balls.length := by
    obtain ⟨-, -, rfl⟩ := ofBalls_eq_ok.mp hf
    exact List.length_mapIdx
  have hball : f.balls[i]? = some f.balls[i] := List.getElem?_eq_getElem (hlength ▸ hi)
  have hstart := within_of_ofBalls hf (List.getElem_mem (hlength ▸ hi)) a
  have hrun : ∀ n, (f.steps n).balls[i]? = some ((Ball.advance d)^[n] f.balls[i]) := by
    intro n
    rw [getElem?_balls_steps, hball, hdomain]
    rfl
  refine ⟨_, _, _, hrun t, hrun (t + 1), hrun (t + 2), ?_, ?_⟩
  · rw [Ball.along_iterate, Ball.along_iterate, Ball.radius_iterate, Ball.radius_iterate]
    exact Motion.within_or_within_succ hstart t
  · rw [Ball.along_iterate, Ball.along_iterate, Ball.along_iterate, Ball.radius_iterate]
    exact Motion.iterate_add_two_of_not_within hstart t

/-- Two balls in a box of 20 by 100, each too fast on one axis: the first crosses it to the right,
the second downward. -/
def fastBalls : List (Ball Rat) :=
  [⟨0, ⟨10, 30⟩, ⟨50, 0⟩, 1, Color.white⟩, ⟨0, ⟨3, 1⟩, ⟨70, -200⟩, 2, Color.white⟩]

/-- The second ball is outside on the vertical axis at tick seven, and at tick eight it is as it was
at tick six. -/
theorem overshoot_lasts_one_step_fast :
    ∃ f, ofBalls (⟨20, 100⟩ : Domain Rat) fastBalls = .ok f
      ∧ ∃ before now next, (f.steps 6).balls[1]? = some before ∧ (f.steps 7).balls[1]? = some now
        ∧ (f.steps 8).balls[1]? = some next ∧ ¬ (now.along .vertical).Within 100 now.radius
        ∧ next.along .vertical = before.along .vertical := by
  have hf := ofBalls_eq_ok.mpr ⟨(by decide +kernel : domainFits (⟨20, 100⟩ : Domain Rat) = true),
    (by unfold Fits; decide +kernel : ∀ b ∈ fastBalls, Fits (⟨20, 100⟩ : Domain Rat) b), rfl⟩
  obtain ⟨before, now, next, hbefore, hnow, hnext, -, hback⟩ :=
    overshoot_lasts_one_step hf (i := 1) (by decide) .vertical 6
  refine ⟨_, hf, before, now, next, hbefore, hnow, hnext, ?_⟩
  have hout : ¬ (now.along .vertical).Within 100 now.radius := by
    have hat : (steps 7 (⟨⟨20, 100⟩, numberedFrom 0 fastBalls, 0⟩ : Field Rat)).balls[1]?
        = some ⟨1, ⟨10, 1⟩, ⟨270, 200⟩, 2, Color.white⟩ := by decide +kernel
    obtain rfl := Option.some.inj (hnow.symm.trans hat)
    rintro ⟨-, hhi⟩
    exact absurd hhi (by decide +kernel)
  exact ⟨hout, hback hout⟩

end Field

end Ricochet
