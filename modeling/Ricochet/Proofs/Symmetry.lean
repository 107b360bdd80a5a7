import Mathlib.Algebra.Order.Field.Rat
import Ricochet.Proofs.Containment

set_option autoImplicit false

/-! # The symmetries of the box

Over the rational numbers nothing tells left from right, bottom from top, one axis from the other,
or a box from a larger one of the same shape. So it makes no difference whether a field is
transformed before a run or after it.

On one axis a transformation has to be exchanged with moving, with turning round and with the test
of the walls (`Motion.advance_comm`). The walls are tested by two comparisons of which each becomes
the other in a mirror (`Motion.beyond_mirrored`). A ball has two axes that know nothing of each
other (`Symmetry.advance_ball`), and a run is the iterate of a step (`Symmetry.semiconj_step`).

* `Field.steps_respect_symmetries`: every symmetry, for whole runs and for fields built by hand, and
  the independence of the two axes.
-/

namespace Ricochet

/-! ## One axis -/

namespace Motion

/-- A motion that has turned round. -/
def turned (m : Motion Rat) : Motion Rat := { m with vel := -m.vel }

/-- A motion seen in a mirror in the middle of an axis of this extent. -/
def mirrored (extent : Rat) (m : Motion Rat) : Motion Rat := ⟨extent - m.pos, -m.vel⟩

/-- A motion on a larger or smaller scale. -/
def enlarged (factor : Rat) (m : Motion Rat) : Motion Rat := ⟨factor * m.pos, factor * m.vel⟩

/-- A transformation can be exchanged with a step if it can be exchanged with moving and with
turning round, and takes the positions beyond the walls to positions beyond the walls, and no
others. -/
theorem advance_comm {L r L' r' : Rat} {T : Motion Rat → Motion Rat}
    (hmove : ∀ m, (T m).move = T m.move) (hturned : ∀ m, (T m).turned = T m.turned)
    (hbeyond : ∀ m, beyond L' r' (T m).pos ↔ beyond L r m.pos) (m : Motion Rat) :
    (T m).advance L' r' = T (m.advance L r) := by
  -- The position ahead is the one after moving, so the same steps are blocked.
  have hahead : beyond L' r' ((T m).pos + (T m).vel) ↔ beyond L r (m.pos + m.vel) := by
    show beyond L' r' (T m).move.pos ↔ beyond L r m.move.pos
    rw [hmove]
    exact hbeyond m.move
  unfold advance reflect
  by_cases hblocked : beyond L r (m.pos + m.vel)
  · rw [if_pos (hahead.mpr hblocked), if_pos hblocked]
    show (T m).turned.move = T m.turned.move
    rw [hturned, hmove]
  · rw [if_neg (mt hahead.mp hblocked), if_neg hblocked]
    exact hmove m

/-- What is beyond one wall is beyond the other in the mirror. -/
theorem beyond_mirrored (L r p : Rat) : beyond L r (L - p) ↔ beyond L r p := by
  have hfar : L - r < L - p ↔ p < r := sub_lt_sub_iff_left L
  have hnear : L - p < r ↔ L - r < p := sub_lt_comm
  show L - r < L - p ∨ L - p < r ↔ L - r < p ∨ p < r
  rw [hfar, hnear, or_comm]

theorem beyond_enlarged {k : Rat} (hk : 0 < k) (L r p : Rat) :
    beyond (k * L) (k * r) (k * p) ↔ beyond L r p := by
  show k * L - k * r < k * p ∨ k * p < k * r ↔ L - r < p ∨ p < r
  rw [← mul_sub, mul_lt_mul_iff_right₀ hk, mul_lt_mul_iff_right₀ hk]

/-- A step and the mirror can be exchanged. -/
theorem advance_mirrored (L r : Rat) (m : Motion Rat) :
    (m.mirrored L).advance L r = (m.advance L r).mirrored L := by
  refine advance_comm (T := mirrored L) (fun m => ?_) (fun m => rfl)
    (fun m => beyond_mirrored L r m.pos) m
  show (⟨L - m.pos + -m.vel, -m.vel⟩ : Motion Rat) = ⟨L - (m.pos + m.vel), -m.vel⟩
  rw [← sub_eq_add_neg, sub_sub]

/-- A step and a change of scale can be exchanged. -/
theorem advance_enlarged {k : Rat} (hk : 0 < k) (L r : Rat) (m : Motion Rat) :
    (m.enlarged k).advance (k * L) (k * r) = (m.advance L r).enlarged k := by
  refine advance_comm (T := enlarged k) (fun m => ?_) (fun m => ?_)
    (fun m => beyond_enlarged hk L r m.pos) m
  · show (⟨k * m.pos + k * m.vel, k * m.vel⟩ : Motion Rat) = ⟨k * (m.pos + m.vel), k * m.vel⟩
    rw [mul_add]
  · show (⟨k * m.pos, -(k * m.vel)⟩ : Motion Rat) = ⟨k * m.pos, k * -m.vel⟩
    rw [mul_neg]

theorem within_mirrored (L r : Rat) (m : Motion Rat) :
    (m.mirrored L).Within L r ↔ m.Within L r := by
  have hnear : r ≤ L - m.pos ↔ m.pos ≤ L - r := le_sub_comm
  have hfar : L - m.pos ≤ L - r ↔ r ≤ m.pos := sub_le_sub_iff_left L
  show r ≤ L - m.pos ∧ L - m.pos ≤ L - r ↔ r ≤ m.pos ∧ m.pos ≤ L - r
  rw [hnear, hfar, and_comm]

theorem within_enlarged {k : Rat} (hk : 0 < k) (L r : Rat) (m : Motion Rat) :
    (m.enlarged k).Within (k * L) (k * r) ↔ m.Within L r := by
  show k * r ≤ k * m.pos ∧ k * m.pos ≤ k * L - k * r ↔ r ≤ m.pos ∧ m.pos ≤ L - r
  rw [← mul_sub, mul_le_mul_iff_right₀ hk, mul_le_mul_iff_right₀ hk]

end Motion

/-! ## Domains, balls and fields -/

/-- A way to transform a field: mirrored along an axis, with its axes exchanged, or on another
scale. -/
inductive Symmetry where
  | mirror (a : Axis)
  | swap
  | enlarge (factor : Rat) (positive : 0 < factor)

namespace Symmetry

/-- A domain, transformed. -/
def domain : Symmetry → Domain Rat → Domain Rat
  | .mirror _, d => d
  | .swap, d => ⟨d.height, d.width⟩
  | .enlarge k _, d => ⟨k * d.width, k * d.height⟩

/-- A ball in a domain, transformed. Its number and its colour stay. -/
def ball : Symmetry → Domain Rat → Ball Rat → Ball Rat
  | .mirror .horizontal, d, b => { b with x := b.x.mirrored d.width }
  | .mirror .vertical, d, b => { b with y := b.y.mirrored d.height }
  | .swap, _, b => { b with x := b.y, y := b.x }
  | .enlarge k _, _, b =>
      { b with x := b.x.enlarged k, y := b.y.enlarged k, radius := k * b.radius }

/-- A field, transformed. The tick stays. -/
def field (s : Symmetry) (f : Field Rat) : Field Rat :=
  { f with domain := s.domain f.domain, balls := f.balls.map (s.ball f.domain) }

/-! ## Runs -/

theorem advance_ball (s : Symmetry) (d : Domain Rat) (b : Ball Rat) :
    (s.ball d b).advance (s.domain d) = s.ball d (b.advance d) := by
  cases s with
  | mirror a =>
      cases a with
      | horizontal => simp only [ball, domain, Ball.advance, Motion.advance_mirrored]
      | vertical => simp only [ball, domain, Ball.advance, Motion.advance_mirrored]
  | swap => rfl
  | enlarge k hk => simp only [ball, domain, Ball.advance, Motion.advance_enlarged hk]

/-- One step of a field can be exchanged with a symmetry. -/
theorem semiconj_step (s : Symmetry) : Function.Semiconj s.field Field.step Field.step := by
  intro f
  have hballs : (f.balls.map (Ball.advance f.domain)).map (s.ball f.domain)
      = (f.balls.map (s.ball f.domain)).map (Ball.advance (s.domain f.domain)) := by
    rw [List.map_map, List.map_map]
    exact List.map_congr_left fun b _ => (s.advance_ball f.domain b).symm
  exact congrArg (fun balls => (⟨s.domain f.domain, balls, f.tick + 1⟩ : Field Rat)) hballs

theorem steps_field (s : Symmetry) (f : Field Rat) (n : Nat) :
    (s.field f).steps n = s.field (f.steps n) := by
  rw [Field.steps_eq_iterate, Field.steps_eq_iterate]
  exact (s.semiconj_step.iterate_right n f).symm

/-! ## Fields built by hand -/

theorem domainFits_domain (s : Symmetry) {d : Domain Rat} (h : Field.domainFits d = true) :
    Field.domainFits (s.domain d) = true := by
  have hiff : ∀ d : Domain Rat, Field.domainFits d = true ↔ 0 < d.width ∧ 0 < d.height := by
    intro d
    simp [Field.domainFits, Scalar.zero, Scalar.isInfinite, Scalar.ofInt]
  rw [hiff] at h ⊢
  cases s with
  | mirror a => exact h
  | swap => exact h.symm
  | enlarge k hk => exact ⟨mul_pos hk h.1, mul_pos hk h.2⟩

theorem fits_ball (s : Symmetry) {d : Domain Rat} {b : Ball Rat} (h : Field.Fits d b) :
    Field.Fits (s.domain d) (s.ball d b) := by
  obtain ⟨hradius, hinside⟩ := h
  rw [Ball.inside_iff] at hinside
  have hx : b.x.Within d.width b.radius := hinside .horizontal
  have hy : b.y.Within d.height b.radius := hinside .vertical
  rw [Field.Fits, Ball.inside_iff]
  cases s with
  | mirror a =>
      cases a with
      | horizontal =>
          refine ⟨hradius, fun c => ?_⟩
          cases c with
          | horizontal => exact (Motion.within_mirrored _ _ _).mpr hx
          | vertical => exact hy
      | vertical =>
          refine ⟨hradius, fun c => ?_⟩
          cases c with
          | horizontal => exact hx
          | vertical => exact (Motion.within_mirrored _ _ _).mpr hy
  | swap =>
      refine ⟨hradius, fun c => ?_⟩
      cases c with
      | horizontal => exact hy
      | vertical => exact hx
  | enlarge k hk =>
      have hpos : 0 < b.radius := hradius
      refine ⟨(mul_pos hk hpos : 0 < k * b.radius), fun c => ?_⟩
      cases c with
      | horizontal => exact (Motion.within_enlarged hk _ _ _).mpr hx
      | vertical => exact (Motion.within_enlarged hk _ _ _).mpr hy

theorem numberedFrom_map_ball (s : Symmetry) (d : Domain Rat) (i : Nat) (balls : List (Ball Rat)) :
    Field.numberedFrom i (balls.map (s.ball d)) = (Field.numberedFrom i balls).map (s.ball d) := by
  have hnumber : ∀ (b : Ball Rat) (k : Int),
      ({ s.ball d b with id := k } : Ball Rat) = s.ball d { b with id := k } := by
    intro b k
    cases s with
    | mirror a => cases a <;> rfl
    | _ => rfl
  induction balls generalizing i with
  | nil => rfl
  | cons b bs ih =>
      rw [List.map_cons, Field.numberedFrom_cons, Field.numberedFrom_cons, List.map_cons, ih,
        hnumber]

/-- The transform of a field built by hand is the field of the transformed balls. -/
theorem ofBalls_of_ofBalls (s : Symmetry) {d : Domain Rat} {balls : List (Ball Rat)} {f : Field Rat}
    (h : Field.ofBalls d balls = .ok f) :
    Field.ofBalls (s.domain d) (balls.map (s.ball d)) = .ok (s.field f) := by
  obtain ⟨hdomain, hfits, rfl⟩ := Field.ofBalls_eq_ok.mp h
  refine Field.ofBalls_eq_ok.mpr ⟨s.domainFits_domain hdomain, ?_, ?_⟩
  · intro c hc
    obtain ⟨b, hb, rfl⟩ := List.mem_map.mp hc
    exact s.fits_ball (hfits b hb)
  · rw [numberedFrom_map_ball]
    rfl

end Symmetry

namespace Field

/-- On an axis, the balls of two runs move alike for good if they start alike and have the same
radius, whatever they do on the other axis and whatever else is in their fields. -/
theorem along_steps_eq {f g : Field Rat} {i j : Nat} {b c : Ball Rat} (hb : f.balls[i]? = some b)
    (hc : g.balls[j]? = some c) {a : Axis} (hextent : f.domain.extent a = g.domain.extent a)
    (hstart : b.along a = c.along a) (hradius : b.radius = c.radius) (n : Nat) :
    ∃ b' c', (f.steps n).balls[i]? = some b' ∧ (g.steps n).balls[j]? = some c'
      ∧ b'.along a = c'.along a := by
  obtain ⟨b', hb', hfirst⟩ := f.getElem?_steps_along hb a n
  obtain ⟨c', hc', hsecond⟩ := g.getElem?_steps_along hc a n
  refine ⟨b', c', hb', hc', ?_⟩
  rw [hfirst, hsecond, hextent, hstart, hradius]

/-- **A run respects the symmetries of the box.** To mirror a field along either axis, to exchange
its axes or to multiply all its lengths by a positive factor, and then to take any number of steps,
is to take the steps first. The transform of a field built by hand is itself built by hand, from the
transformed balls. And along each axis a ball moves by what it is on this axis: two balls of the
same radius that start alike on an axis of the same extent are alike on it after every step, however
they differ on the other. -/
theorem steps_respect_symmetries :
    (∀ (s : Symmetry) (f : Field Rat) (n : Nat), (s.field f).steps n = s.field (f.steps n))
    ∧ (∀ (s : Symmetry) (d : Domain Rat) (balls : List (Ball Rat)) (f : Field Rat),
        ofBalls d balls = .ok f → ofBalls (s.domain d) (balls.map (s.ball d)) = .ok (s.field f))
    ∧ ∀ (a : Axis) (f g : Field Rat) (i j : Nat) (b c : Ball Rat),
        f.domain.extent a = g.domain.extent a → f.balls[i]? = some b → g.balls[j]? = some c →
        b.along a = c.along a → b.radius = c.radius →
        ∀ n, ∃ b' c', (f.steps n).balls[i]? = some b' ∧ (g.steps n).balls[j]? = some c'
          ∧ b'.along a = c'.along a :=
  ⟨fun s => s.steps_field, fun s _ _ _ h => s.ofBalls_of_ofBalls h,
    fun _ _ _ _ _ _ _ hextent hb hc hstart hradius => along_steps_eq hb hc hextent hstart hradius⟩

/-- A ball whose second step ends exactly at the right wall of a box of 10 by 6. -/
def wallBall : Ball Rat := ⟨0, ⟨7, 1⟩, ⟨2, 3⟩, 1, Color.white⟩

/-- The ball in the mirror, whose second step ends exactly at the left wall. -/
def wallBallMirrored : Ball Rat := ⟨0, ⟨3, -1⟩, ⟨2, 3⟩, 1, Color.white⟩

/-- Another ball, which is the same along the horizontal axis only. -/
def wallBallAbove : Ball Rat := ⟨4, ⟨7, 1⟩, ⟨5, -1 / 2⟩, 1, Color.orange⟩

/-- The mirrored ball is at the left wall after two steps, as the ball is at the right one, and has
turned round after the third. In a higher box the other ball does along the horizontal axis what the
first does. -/
theorem steps_respect_symmetries_wall :
    ofBalls ⟨10, 6⟩ [wallBall] = .ok ⟨⟨10, 6⟩, [wallBall], 0⟩
    ∧ ofBalls ⟨10, 6⟩ [wallBallMirrored] = .ok ⟨⟨10, 6⟩, [wallBallMirrored], 0⟩
    ∧ (steps 2 ⟨⟨10, 6⟩, [wallBallMirrored], 0⟩).balls.map (·.x) = [⟨1, -1⟩]
    ∧ (steps 3 ⟨⟨10, 6⟩, [wallBallMirrored], 0⟩).balls.map (·.x) = [⟨2, 1⟩]
    ∧ ∃ b c, (steps 3 ⟨⟨10, 6⟩, [wallBall], 0⟩).balls[0]? = some b
      ∧ (steps 3 ⟨⟨10, 9⟩, [wallBallAbove], 0⟩).balls[0]? = some c ∧ b.x = c.x ∧ b.y ≠ c.y := by
  obtain ⟨hsteps, hbuilt, halike⟩ := steps_respect_symmetries
  have hfield : ofBalls ⟨10, 6⟩ [wallBall] = .ok ⟨⟨10, 6⟩, [wallBall], 0⟩ := by decide +kernel
  have hball : [wallBall].map ((Symmetry.mirror .horizontal).ball ⟨10, 6⟩)
      = [wallBallMirrored] := by
    decide +kernel
  have hmirror : (Symmetry.mirror .horizontal).field ⟨⟨10, 6⟩, [wallBall], 0⟩
      = ⟨⟨10, 6⟩, [wallBallMirrored], 0⟩ := by decide +kernel
  refine ⟨hfield, ?_, ?_, ?_, ?_⟩
  · have h := hbuilt (.mirror .horizontal) _ _ _ hfield
    rw [hball, hmirror] at h
    exact h
  · rw [← hmirror, hsteps]
    decide +kernel
  · rw [← hmirror, hsteps]
    decide +kernel
  · obtain ⟨b, c, hb, hc, hx⟩ := halike .horizontal ⟨⟨10, 6⟩, [wallBall], 0⟩
      ⟨⟨10, 9⟩, [wallBallAbove], 0⟩ 0 0 wallBall wallBallAbove rfl rfl rfl rfl rfl 3
    have hbis : (steps 3 ⟨⟨10, 6⟩, [wallBall], 0⟩).balls[0]?
        = some { wallBall with x := ⟨8, -1⟩, y := ⟨5, 3⟩ } := by decide +kernel
    have hcis : (steps 3 ⟨⟨10, 9⟩, [wallBallAbove], 0⟩).balls[0]?
        = some { wallBallAbove with x := ⟨8, -1⟩, y := ⟨7 / 2, -1 / 2⟩ } := by decide +kernel
    refine ⟨b, c, hb, hc, hx, ?_⟩
    obtain rfl := Option.some.inj (hb.symm.trans hbis)
    obtain rfl := Option.some.inj (hc.symm.trans hcis)
    decide +kernel

end Field

end Ricochet
