import Mathlib.Algebra.Order.Ring.Rat
import Mathlib.Tactic.Linarith
import Mathlib.Tactic.NormNum
import Ricochet.Numeric.Rational
import Ricochet.Proofs.FieldRun

set_option autoImplicit false

/-! # When balls stay inside

Over the rational numbers a ball never leaves the box if its speed is at most half of the room it
has, that is, half of the extent less both radii. The bound is exact: a faster ball that starts in
the middle is outside after one step, since it turns round for one wall and runs past the other.

* `Motion.within_iterate`: on one axis, the bound keeps a ball inside for good.
* `Motion.not_within_advance_middle`: past the bound, the ball in the middle leaves at once.
* `Field.containment`: both, for fields, and containment of every field built by hand.
-/

namespace Ricochet

/-! ## One axis -/

namespace Motion

/-- Whether a ball of this radius lies between the walls of an axis of this extent. -/
def Within (extent radius : Rat) (m : Motion Rat) : Prop :=
  radius ≤ m.pos ∧ m.pos ≤ extent - radius

/-- One step over the rational numbers: back by the velocity if the way ahead is blocked, else
forward. -/
theorem advance_eq (L r : Rat) (m : Motion Rat) :
    m.advance L r
      = if L - r < m.pos + m.vel ∨ m.pos + m.vel < r then ⟨m.pos - m.vel, -m.vel⟩
        else ⟨m.pos + m.vel, m.vel⟩ := by
  show (if L - r < m.pos + m.vel ∨ m.pos + m.vel < r then { m with vel := -m.vel } else m).move = _
  split
  · rw [sub_eq_add_neg]
    rfl
  · rfl

theorem abs_vel_advance (L r : Rat) (m : Motion Rat) : |(m.advance L r).vel| = |m.vel| := by
  rw [advance_eq]
  split
  · exact abs_neg m.vel
  · rfl

/-- One step keeps a ball inside whose speed is at most half of its room. A blocked way ahead means
that the ball is within one speed of a wall, so there is room behind it. -/
theorem within_advance {L r : Rat} {m : Motion Rat} (h : m.Within L r)
    (hv : 2 * |m.vel| ≤ L - 2 * r) : (m.advance L r).Within L r := by
  obtain ⟨hlo, hhi⟩ := h
  have hup : m.vel ≤ |m.vel| := le_abs_self m.vel
  have hdown : -m.vel ≤ |m.vel| := neg_le_abs m.vel
  rw [advance_eq]
  split
  · rename_i hblocked
    show r ≤ m.pos - m.vel ∧ m.pos - m.vel ≤ L - r
    rcases hblocked with hwall | hwall
    · constructor <;> linarith
    · constructor <;> linarith
  · rename_i hfree
    show r ≤ m.pos + m.vel ∧ m.pos + m.vel ≤ L - r
    rw [not_or, not_lt, not_lt] at hfree
    exact ⟨hfree.2, hfree.1⟩

theorem abs_vel_iterate (L r : Rat) (m : Motion Rat) (n : Nat) :
    |((advance L r)^[n] m).vel| = |m.vel| := by
  induction n with
  | zero => rfl
  | succ n ih => rw [Function.iterate_succ_apply', abs_vel_advance, ih]

/-- **Containment on one axis.** A ball whose speed is at most half of its room stays inside. -/
theorem within_iterate {L r : Rat} {m : Motion Rat} (h : m.Within L r)
    (hv : 2 * |m.vel| ≤ L - 2 * r) (n : Nat) : ((advance L r)^[n] m).Within L r := by
  induction n with
  | zero => exact h
  | succ n ih =>
      rw [Function.iterate_succ_apply']
      apply within_advance ih
      rw [abs_vel_iterate]
      exact hv

/-- Past the bound, a ball that starts in the middle of its axis is outside after one step. -/
theorem not_within_advance_middle {L r s : Rat} (h : L - 2 * r < 2 * s) :
    ¬ (advance L r ⟨L / 2, s⟩).Within L r := by
  have hblocked : L - r < L / 2 + s ∨ L / 2 + s < r := by
    left
    linarith
  rw [advance_eq, if_pos hblocked]
  rintro ⟨hlo, -⟩
  have hback : r ≤ L / 2 - s := hlo
  linarith

end Motion

/-! ## Fields -/

theorem Ball.inside_iff (d : Domain Rat) (b : Ball Rat) :
    b.inside d = true ↔ ∀ a : Axis, (b.along a).Within (d.extent a) b.radius := by
  have hdef : b.inside d = true ↔ b.radius ≤ b.x.pos ∧ b.x.pos ≤ d.width - b.radius
      ∧ b.radius ≤ b.y.pos ∧ b.y.pos ≤ d.height - b.radius := decide_eq_true_iff
  rw [hdef]
  constructor
  · rintro ⟨h1, h2, h3, h4⟩ a
    cases a with
    | horizontal => exact ⟨h1, h2⟩
    | vertical => exact ⟨h3, h4⟩
  · intro h
    obtain ⟨h1, h2⟩ := h .horizontal
    obtain ⟨h3, h4⟩ := h .vertical
    exact ⟨h1, h2, h3, h4⟩

namespace Field

/-- A ball of a run on one axis, found by its place in the field. -/
theorem getElem?_steps_along (f : Field Rat) {i : Nat} {b : Ball Rat} (h : f.balls[i]? = some b)
    (a : Axis) (n : Nat) :
    ∃ c, (f.steps n).balls[i]? = some c
      ∧ c.along a = (Motion.advance (f.domain.extent a) b.radius)^[n] (b.along a) := by
  refine ⟨(Ball.advance f.domain)^[n] b, ?_, Ball.along_iterate f.domain b a n⟩
  rw [balls_steps, List.getElem?_map, h]
  rfl

/-- The ball of radius `r` in the middle of a square box of side `L`, which moves along one axis
only, with velocity `s`. -/
def middleBall (a : Axis) (L r s : Rat) : Ball Rat :=
  match a with
  | .horizontal => ⟨0, ⟨L / 2, s⟩, ⟨L / 2, 0⟩, r, Color.white⟩
  | .vertical => ⟨0, ⟨L / 2, 0⟩, ⟨L / 2, s⟩, r, Color.white⟩

theorem along_middleBall (a : Axis) (L r s : Rat) : (middleBall a L r s).along a = ⟨L / 2, s⟩ := by
  cases a <;> rfl

theorem radius_middleBall (a : Axis) (L r s : Rat) : (middleBall a L r s).radius = r := by
  cases a <;> rfl

/-- The ball in the middle fits its box. -/
theorem ofBalls_middleBall (a : Axis) {L r : Rat} (s : Rat) (hr : 0 < r) (hL : 2 * r ≤ L) :
    ofBalls ⟨L, L⟩ [middleBall a L r s] = .ok ⟨⟨L, L⟩, [middleBall a L r s], 0⟩ := by
  have hpos : 0 < L := by linarith
  rw [ofBalls_eq_ok]
  refine ⟨?_, ?_, ?_⟩
  · have hzero : (Scalar.zero : Rat) < L := hpos
    simp [domainFits, hzero, Scalar.isInfinite]
  · intro b hb
    rw [List.mem_singleton] at hb
    subst hb
    refine ⟨?_, ?_⟩
    · rw [radius_middleBall]
      exact hr
    · rw [Ball.inside_iff, radius_middleBall]
      intro c
      have hmid : r ≤ L / 2 ∧ L / 2 ≤ L - r := by constructor <;> linarith
      cases a <;> cases c <;> exact hmid
  · cases a <;> rfl

/-- Within the bound, a ball that starts inside is inside after every step. -/
theorem within_steps (f : Field Rat) {i : Nat} {b : Ball Rat} (hb : f.balls[i]? = some b) (a : Axis)
    (h : (b.along a).Within (f.domain.extent a) b.radius)
    (hv : 2 * |(b.along a).vel| ≤ f.domain.extent a - 2 * b.radius) (n : Nat) :
    ∃ c, (f.steps n).balls[i]? = some c ∧ (c.along a).Within (f.domain.extent a) b.radius := by
  obtain ⟨c, hc, halong⟩ := f.getElem?_steps_along hb a n
  refine ⟨c, hc, ?_⟩
  rw [halong]
  exact Motion.within_iterate h hv n

/-- Past the bound, the ball in the middle of its box is outside after the first step. -/
theorem middleBall_leaves (a : Axis) {L r s : Rat} (h : L - 2 * r < 2 * s) :
    ∃ c, (steps 1 ⟨⟨L, L⟩, [middleBall a L r s], 0⟩).balls = [c]
      ∧ ¬ (c.along a).Within L r := by
  refine ⟨(middleBall a L r s).advance ⟨L, L⟩, rfl, ?_⟩
  have hextent : (⟨L, L⟩ : Domain Rat).extent a = L := by cases a <;> rfl
  rw [Ball.along_advance, along_middleBall, radius_middleBall, hextent]
  exact Motion.not_within_advance_middle h

/-- Within the bound on both axes, a field whose balls are all inside keeps them inside. -/
theorem inside_steps {f : Field Rat} (hin : ∀ b ∈ f.balls, b.inside f.domain = true)
    (hv : ∀ b ∈ f.balls, ∀ a, 2 * |(b.along a).vel| ≤ f.domain.extent a - 2 * b.radius) (n : Nat) :
    ∀ b ∈ (f.steps n).balls, b.inside f.domain = true := by
  intro c hc
  rw [balls_steps, List.mem_map] at hc
  obtain ⟨b, hb, rfl⟩ := hc
  rw [Ball.inside_iff]
  intro a
  rw [Ball.along_iterate, Ball.radius_iterate]
  exact Motion.within_iterate ((Ball.inside_iff f.domain b).mp (hin b hb) a) (hv b hb a) n

/-- **The exact speed bound.** On each axis, all balls of a radius and a speed stay inside in every
run of every field if and only if the speed is at most half of the room. Past the bound already a
field of one ball, built by hand, has it outside after its first step. Within the bound on both
axes, every field built by hand contains all its balls for good. -/
theorem containment :
    (∀ (a : Axis) (L r s : Rat), 0 < r → 2 * r ≤ L → 0 ≤ s →
      ((∀ (f : Field Rat) (i : Nat) (b : Ball Rat), f.domain.extent a = L →
          f.balls[i]? = some b → b.radius = r → (b.along a).Within L r →
          ((b.along a).vel = s ∨ (b.along a).vel = -s) →
          ∀ n, ∃ c, (f.steps n).balls[i]? = some c ∧ (c.along a).Within L r)
        ↔ 2 * s ≤ L - 2 * r)
      ∧ (L - 2 * r < 2 * s → ∃ d b f, ofBalls d [b] = .ok f ∧ d.extent a = L ∧ b.radius = r
          ∧ (b.along a).vel = s ∧ ∃ c, (f.steps 1).balls = [c] ∧ ¬ (c.along a).Within L r))
    ∧ ∀ (d : Domain Rat) (balls : List (Ball Rat)) (f : Field Rat), ofBalls d balls = .ok f →
      (∀ b ∈ balls, 2 * |b.x.vel| ≤ d.width - 2 * b.radius
        ∧ 2 * |b.y.vel| ≤ d.height - 2 * b.radius) →
      ∀ n, ∀ b ∈ (f.steps n).balls, d.contains b.x.pos b.y.pos b.radius = true := by
  refine ⟨fun a L r s hr hL hs => ⟨⟨fun hall => ?_, ?_⟩, ?_⟩, ?_⟩
  · -- Only if: the ball in the middle refutes any larger speed.
    by_contra hfast
    have hfast : L - 2 * r < 2 * s := not_le.mp hfast
    have hvel : ((middleBall a L r s).along a).vel = s := by rw [along_middleBall]
    have hin : ((middleBall a L r s).along a).Within L r := by
      rw [along_middleBall]
      show r ≤ L / 2 ∧ L / 2 ≤ L - r
      constructor <;> linarith
    obtain ⟨c, hc, hwithin⟩ := hall ⟨⟨L, L⟩, [middleBall a L r s], 0⟩ 0 (middleBall a L r s)
      (by cases a <;> rfl) rfl (radius_middleBall a L r s) hin (Or.inl hvel) 1
    obtain ⟨c', hc', hleaves⟩ := middleBall_leaves a hfast
    rw [hc'] at hc
    cases hc
    exact hleaves hwithin
  · -- If: only the size of the velocity matters, and a step keeps it.
    rintro hslow f i b rfl hb rfl hin hvel
    have habs : |(b.along a).vel| = s := by
      rcases hvel with h | h
      · rw [h, abs_of_nonneg hs]
      · rw [h, abs_neg, abs_of_nonneg hs]
    exact f.within_steps hb a hin (by rw [habs]; exact hslow)
  · intro hfast
    refine ⟨⟨L, L⟩, middleBall a L r s, _, ofBalls_middleBall a s hr hL, by cases a <;> rfl,
      radius_middleBall a L r s, by rw [along_middleBall], middleBall_leaves a hfast⟩
  · intro d balls f hf hslow n
    obtain ⟨-, hfits, rfl⟩ := ofBalls_eq_ok.mp hf
    refine inside_steps (fun b hb => ?_) (fun b hb a => ?_) n
    · obtain ⟨c, hc, k, rfl⟩ := mem_numberedFrom hb
      exact (hfits c hc).2
    · obtain ⟨c, hc, k, rfl⟩ := mem_numberedFrom hb
      cases a with
      | horizontal => exact (hslow c hc).1
      | vertical => exact (hslow c hc).2

/-- A ball of radius 1 in a box of 10 by 20. At speeds 4 and 9 it starts in a corner and is
contained after seven steps; at speed 9/2, which is less than half of the shorter side, it can
leave. -/
theorem containment_corner :
    (∃ f, ofBalls (⟨10, 20⟩ : Domain Rat) [⟨0, ⟨1, 4⟩, ⟨19, -9⟩, 1, Color.white⟩] = .ok f
      ∧ ∀ b ∈ (f.steps 7).balls, (⟨10, 20⟩ : Domain Rat).contains b.x.pos b.y.pos b.radius = true)
    ∧ ∃ d b f, ofBalls d [b] = .ok f ∧ d.extent .horizontal = 10 ∧ b.radius = 1
      ∧ (b.along .horizontal).vel = 9 / 2
      ∧ ∃ c, (f.steps 1).balls = [c] ∧ ¬ (c.along .horizontal).Within 10 1 := by
  have hfits : ∀ b ∈ [(⟨0, ⟨1, 4⟩, ⟨19, -9⟩, 1, Color.white⟩ : Ball Rat)],
      Fits (⟨10, 20⟩ : Domain Rat) b := by
    intro b hb
    rw [List.mem_singleton] at hb
    subst hb
    exact ⟨by decide +kernel, by decide +kernel⟩
  have hf := ofBalls_eq_ok.mpr ⟨(by decide +kernel : domainFits (⟨10, 20⟩ : Domain Rat) = true),
    hfits, rfl⟩
  refine ⟨⟨_, hf, containment.2 _ _ _ hf ?_ 7⟩, ?_⟩
  · intro b hb
    rw [List.mem_singleton] at hb
    subst hb
    constructor
    · show 2 * |(4 : Rat)| ≤ 10 - 2 * 1
      norm_num
    · show 2 * |(-9 : Rat)| ≤ 20 - 2 * 1
      norm_num
  · exact (containment.1 .horizontal 10 1 (9 / 2) (by norm_num) (by norm_num) (by norm_num)).2
      (by norm_num)

end Field

end Ricochet
