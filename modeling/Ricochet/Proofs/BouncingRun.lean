import Mathlib.Data.Rat.Floor
import Ricochet.Proofs.Containment

set_option autoImplicit false

/-! # The closed form of a bouncing run

Over the rational numbers a ball that has room for at least one step visits the points `x + k·v`
between the walls, where `x` is its start and `v` its velocity. Those `k` are an interval `-a … b`
(`Spans`), and in a run `k` climbs to `b`, turns round, falls to `-a`, turns round, and
so on: a triangle wave of period `2·(a + b)`.

The wave is given in closed form by its phase, the number of steps since its lowest point. The phase
says which way the ball goes next, and that is what a run keeps (`Motion.Rides`): on the way up the
ball has its first velocity, on the way down the opposite one, and at an end it still has the
velocity that carried it there, so that it turns round for the wall ahead.

* `Motion.Rides.advance`: one step of the ball is one step of the wave.
* `Field.bouncing_run`: position, period and visited points of every ball of a field.
-/

namespace Ricochet

/-! ## Triangle waves -/

/-- How many steps after a lowest point a wave on `-a … b` is at step `n`, if it is at 0 and going
up at step 0. -/
def wavePhase (a b n : Nat) : Nat := (n + a) % (2 * (a + b))

/-- The triangle wave on `-a … b` that is at 0 and going up at step 0: the top, less the steps to
the nearest time at the top. -/
def triangleWave (a b n : Nat) : Int := b - |(wavePhase a b n : Int) - (a + b : Nat)|

/-- What it is to be a triangle wave on `-a … b` from 0 going up: it moves by one at every step,
keeps its direction between the ends and turns round at each end at once. -/
structure Zigzag (a b : Nat) (k : Nat → Int) : Prop where
  start : k 0 = 0
  rises : 0 < b → k 1 = 1
  inside : ∀ n, -(a : Int) ≤ k n ∧ k n ≤ b
  unit : ∀ n, k (n + 1) = k n + 1 ∨ k (n + 1) = k n - 1
  keeps : ∀ n, k (n + 1) ≠ -a → k (n + 1) ≠ b → k (n + 2) - k (n + 1) = k (n + 1) - k n
  turns : ∀ n, k (n + 1) = -a ∨ k (n + 1) = b → k (n + 2) = k n

section Wave

variable {a b : Nat}

theorem wavePhase_lt (h : 1 ≤ a + b) (n : Nat) : wavePhase a b n < 2 * (a + b) :=
  Nat.mod_lt _ (by omega)

theorem wavePhase_zero (h : 1 ≤ a + b) : wavePhase a b 0 = a := by
  unfold wavePhase
  rw [Nat.zero_add]
  exact Nat.mod_eq_of_lt (by omega)

theorem wavePhase_add (n j : Nat) :
    wavePhase a b (n + j) = (wavePhase a b n + j) % (2 * (a + b)) := by
  unfold wavePhase
  rw [Nat.mod_add_mod, Nat.add_right_comm]

/-- The phase grows by one, and the last phase of a period is followed by the first. -/
theorem wavePhase_succ (h : 1 ≤ a + b) (n : Nat) :
    (wavePhase a b n + 1 = 2 * (a + b) ∧ wavePhase a b (n + 1) = 0)
      ∨ (wavePhase a b n + 1 < 2 * (a + b) ∧ wavePhase a b (n + 1) = wavePhase a b n + 1) := by
  have hlt := wavePhase_lt h n
  rw [wavePhase_add]
  by_cases hend : wavePhase a b n + 1 = 2 * (a + b)
  · left
    rw [hend, Nat.mod_self]
    exact ⟨rfl, rfl⟩
  · right
    have hnext : wavePhase a b n + 1 < 2 * (a + b) := by omega
    exact ⟨hnext, Nat.mod_eq_of_lt hnext⟩

theorem wavePhase_add_period (n : Nat) :
    wavePhase a b (n + 2 * (a + b)) = wavePhase a b n := by
  unfold wavePhase
  rw [Nat.add_right_comm, Nat.add_mod_right]

/-- On the way up, the wave has come as far as its phase. -/
theorem triangleWave_of_le {n : Nat} (h : wavePhase a b n ≤ a + b) :
    triangleWave a b n = (wavePhase a b n : Int) - a := by
  unfold triangleWave
  rw [abs_of_nonpos (by omega)]
  push_cast
  ring

/-- On the way down, it is as far from its end as its period is. -/
theorem triangleWave_of_ge {n : Nat} (h : a + b ≤ wavePhase a b n) :
    triangleWave a b n = a + 2 * b - (wavePhase a b n : Int) := by
  unfold triangleWave
  rw [abs_of_nonneg (by omega)]
  push_cast
  ring

theorem triangleWave_zero (h : 1 ≤ a + b) : triangleWave a b 0 = 0 := by
  have hphase := wavePhase_zero h
  rw [triangleWave_of_le (by omega), hphase, sub_self]

theorem triangleWave_mem (h : 1 ≤ a + b) (n : Nat) :
    -(a : Int) ≤ triangleWave a b n ∧ triangleWave a b n ≤ b := by
  have hlt := wavePhase_lt h n
  by_cases hup : wavePhase a b n ≤ a + b
  · rw [triangleWave_of_le hup]
    omega
  · rw [triangleWave_of_ge (by omega)]
    omega

theorem triangleWave_succ_of_lt (h : 1 ≤ a + b) {n : Nat} (hup : wavePhase a b n < a + b) :
    triangleWave a b (n + 1) = triangleWave a b n + 1 := by
  have hnext := wavePhase_succ h n
  rw [triangleWave_of_le (by omega), triangleWave_of_le (by omega)]
  omega

theorem triangleWave_succ_of_ge (h : 1 ≤ a + b) {n : Nat} (hdown : a + b ≤ wavePhase a b n) :
    triangleWave a b (n + 1) = triangleWave a b n - 1 := by
  rw [triangleWave_of_ge hdown]
  rcases wavePhase_succ h n with ⟨hend, hnext⟩ | ⟨-, hnext⟩
  · -- The last step of a period ends at the lowest point, where a new period begins.
    rw [triangleWave_of_le (by omega)]
    omega
  · rw [triangleWave_of_ge (by omega)]
    omega

theorem triangleWave_add_period (n : Nat) :
    triangleWave a b (n + 2 * (a + b)) = triangleWave a b n := by
  unfold triangleWave
  rw [wavePhase_add_period]

/-- Within a period from any step on, the wave passes through each of its values. -/
theorem exists_triangleWave_eq (h : 1 ≤ a + b) (n : Nat) {k : Int} (hk : -(a : Int) ≤ k ∧ k ≤ b) :
    ∃ j < 2 * (a + b), triangleWave a b (n + j) = k := by
  have hlt := wavePhase_lt h n
  obtain ⟨p, hp⟩ : ∃ p : Nat, (p : Int) = k + a := ⟨(k + a).toNat, by omega⟩
  have hple : p ≤ a + b := by omega
  -- On the way up the value `k` has the phase `k + a`; wait until the wave is there.
  refine ⟨(p + 2 * (a + b) - wavePhase a b n) % (2 * (a + b)), Nat.mod_lt _ (by omega), ?_⟩
  have hphase : wavePhase a b (n + (p + 2 * (a + b) - wavePhase a b n) % (2 * (a + b))) = p := by
    rw [wavePhase_add, Nat.add_mod_mod,
      show wavePhase a b n + (p + 2 * (a + b) - wavePhase a b n) = p + 2 * (a + b) by omega,
      Nat.add_mod_right]
    exact Nat.mod_eq_of_lt (by omega)
  rw [triangleWave_of_le (by omega), hphase]
  omega

theorem zigzag_triangleWave (h : 1 ≤ a + b) : Zigzag a b (triangleWave a b) := by
  have hzero := wavePhase_zero h
  have hends : ∀ n, (triangleWave a b n = -a ↔ wavePhase a b n = 0)
      ∧ (triangleWave a b n = b ↔ wavePhase a b n = a + b) := by
    intro n
    have hlt := wavePhase_lt h n
    by_cases hup : wavePhase a b n ≤ a + b
    · rw [triangleWave_of_le hup]
      omega
    · rw [triangleWave_of_ge (by omega)]
      omega
  have hstep : ∀ n, (wavePhase a b n < a + b ∧ triangleWave a b (n + 1) = triangleWave a b n + 1)
      ∨ (a + b ≤ wavePhase a b n ∧ triangleWave a b (n + 1) = triangleWave a b n - 1) := by
    intro n
    by_cases hup : wavePhase a b n < a + b
    · exact Or.inl ⟨hup, triangleWave_succ_of_lt h hup⟩
    · exact Or.inr ⟨not_lt.mp hup, triangleWave_succ_of_ge h (not_lt.mp hup)⟩
  refine ⟨triangleWave_zero h, fun hb => ?_, triangleWave_mem h, fun n => ?_, fun n hlo hhi => ?_,
    fun n hend => ?_⟩
  · rw [triangleWave_succ_of_lt h (by omega), triangleWave_zero h, zero_add]
  · rcases hstep n with ⟨-, hn⟩ | ⟨-, hn⟩
    · exact Or.inl hn
    · exact Or.inr hn
  · -- Between the ends, two steps in a row are on the same side of the top.
    have hnow := hstep n
    have hthen := hstep (n + 1)
    rw [show n + 1 + 1 = n + 2 from rfl] at hthen
    have hphase := wavePhase_succ h n
    rw [Ne, (hends (n + 1)).1] at hlo
    rw [Ne, (hends (n + 1)).2] at hhi
    omega
  · have hnow := hstep n
    have hthen := hstep (n + 1)
    rw [show n + 1 + 1 = n + 2 from rfl] at hthen
    have hphase := wavePhase_succ h n
    rw [(hends (n + 1)).1, (hends (n + 1)).2] at hend
    omega

end Wave

/-! ## The points between the walls -/

/-- The points `x + k·v` that lie between the walls are those with `k` from `-a` to `b`. -/
def Spans (extent radius x v : Rat) (a b : Nat) : Prop :=
  ∀ k : Int, (radius ≤ x + k * v ∧ x + k * v ≤ extent - radius) ↔ -(a : Int) ≤ k ∧ k ≤ b

section Spans

variable {L r x v : Rat} {a b : Nat}

/-- Seen in the opposite direction, the interval is turned round. -/
theorem Spans.neg (h : Spans L r x v a b) : Spans L r x (-v) b a := by
  intro k
  have hpoint : x + k * -v = x + (-k : Int) * v := by
    push_cast
    ring
  rw [hpoint, h (-k)]
  omega

theorem exists_spans_of_pos (hlo : r ≤ x) (hhi : x ≤ L - r) (hv : 0 < v) :
    ∃ a b : Nat, Spans L r x v a b := by
  have hdown : 0 ≤ ⌊(x - r) / v⌋ := Int.floor_nonneg.mpr (div_nonneg (by linarith) hv.le)
  have hup : 0 ≤ ⌊(L - r - x) / v⌋ := Int.floor_nonneg.mpr (div_nonneg (by linarith) hv.le)
  refine ⟨⌊(x - r) / v⌋.toNat, ⌊(L - r - x) / v⌋.toNat, fun k => ?_⟩
  rw [Int.toNat_of_nonneg hdown, Int.toNat_of_nonneg hup]
  have hleft : r ≤ x + k * v ↔ -⌊(x - r) / v⌋ ≤ k := by
    rw [neg_le, Int.le_floor, le_div_iff₀ hv, Int.cast_neg, neg_mul]
    constructor <;> intro hk <;> linarith
  have hright : x + k * v ≤ L - r ↔ k ≤ ⌊(L - r - x) / v⌋ := by
    rw [Int.le_floor, le_div_iff₀ hv]
    constructor <;> intro hk <;> linarith
  rw [hleft, hright]

/-- The points between the walls are those of an interval around the start, whichever way the ball
goes. -/
theorem exists_spans (hlo : r ≤ x) (hhi : x ≤ L - r) (hv : v ≠ 0) :
    ∃ a b : Nat, Spans L r x v a b := by
  rcases lt_or_gt_of_ne hv with hneg | hpos
  · obtain ⟨a, b, hspans⟩ := exists_spans_of_pos hlo hhi (neg_pos.mpr hneg)
    refine ⟨b, a, ?_⟩
    rw [← neg_neg v]
    exact hspans.neg
  · exact exists_spans_of_pos hlo hhi hpos

/-- A ball with room for one step either way has at least two points to visit. -/
theorem Spans.one_le (h : Spans L r x v a b)
    (hroom : (r ≤ x + v ∧ x + v ≤ L - r) ∨ (r ≤ x - v ∧ x - v ≤ L - r)) : 1 ≤ a + b := by
  rcases hroom with hroom | hroom
  · have hpoint : x + v = x + (1 : Int) * v := by rw [Int.cast_one, one_mul]
    rw [hpoint, h 1] at hroom
    omega
  · have hpoint : x - v = x + (-1 : Int) * v := by
      push_cast
      ring
    rw [hpoint, h (-1)] at hroom
    omega

end Spans

/-! ## Runs -/

namespace Motion

variable {L r x v : Rat} {a b n : Nat} {m : Motion Rat}

theorem advance_of_blocked (h : ¬ (r ≤ m.pos + m.vel ∧ m.pos + m.vel ≤ L - r)) :
    m.advance L r = ⟨m.pos - m.vel, -m.vel⟩ := by
  rw [advance_eq, if_pos]
  by_contra hfree
  rw [not_or, not_lt, not_lt] at hfree
  exact h ⟨hfree.2, hfree.1⟩

theorem advance_of_free (h : r ≤ m.pos + m.vel ∧ m.pos + m.vel ≤ L - r) :
    m.advance L r = ⟨m.pos + m.vel, m.vel⟩ := by
  rw [advance_eq, if_neg]
  rw [not_or, not_lt, not_lt]
  exact ⟨h.2, h.1⟩

/-- A ball is at the place of the wave at step `n`, and goes up with it or down with it. At the
lowest point it may still have the velocity that carried it there. -/
def Rides (x v : Rat) (a b n : Nat) (m : Motion Rat) : Prop :=
  m.pos = x + triangleWave a b n * v
    ∧ ((m.vel = v ∧ wavePhase a b n ≤ a + b)
      ∨ (m.vel = -v ∧ (wavePhase a b n = 0 ∨ a + b ≤ wavePhase a b n)))

theorem rides_zero (h : 1 ≤ a + b) (m : Motion Rat) : m.Rides m.pos m.vel a b 0 := by
  refine ⟨?_, Or.inl ⟨rfl, ?_⟩⟩
  · rw [triangleWave_zero h, Int.cast_zero, zero_mul, add_zero]
  · rw [wavePhase_zero h]
    exact Nat.le_add_right a b

/-- One step of the ball is one step of the wave. -/
theorem Rides.advance (hspans : Spans L r x v a b) (h : 1 ≤ a + b) (hm : m.Rides x v a b n) :
    (m.advance L r).Rides x v a b (n + 1) := by
  obtain ⟨hpos, hdir⟩ := hm
  have hlt := wavePhase_lt h n
  have hnext := wavePhase_succ h n
  rcases hdir with ⟨hvel, hup⟩ | ⟨hvel, hdown⟩
  · have hahead : m.pos + m.vel = x + (triangleWave a b n + 1 : Int) * v := by
      rw [hpos, hvel]
      push_cast
      ring
    by_cases htop : wavePhase a b n < a + b
    · -- On the way up.
      rw [advance_of_free]
      · refine ⟨?_, Or.inl ⟨hvel, ?_⟩⟩
        · rw [triangleWave_succ_of_lt h htop]
          exact hahead
        · omega
      · rw [hahead, hspans, triangleWave_of_le hup]
        omega
    · -- At the top the way is blocked.
      rw [advance_of_blocked]
      · refine ⟨?_, Or.inr ⟨by rw [hvel], ?_⟩⟩
        · rw [triangleWave_succ_of_ge h (not_lt.mp htop), hpos, hvel]
          push_cast
          ring
        · omega
      · rw [hahead, hspans, triangleWave_of_le hup]
        omega
  · have hahead : m.pos + m.vel = x + (triangleWave a b n - 1 : Int) * v := by
      rw [hpos, hvel]
      push_cast
      ring
    rcases hdown with hbottom | hdown
    · -- At the bottom the way is blocked.
      rw [advance_of_blocked]
      · refine ⟨?_, Or.inl ⟨by rw [hvel, neg_neg], ?_⟩⟩
        · rw [triangleWave_succ_of_lt h (by omega), hpos, hvel]
          push_cast
          ring
        · omega
      · rw [hahead, hspans, triangleWave_of_le (by omega), hbottom]
        omega
    · -- On the way down.
      rw [advance_of_free]
      · refine ⟨?_, Or.inr ⟨hvel, ?_⟩⟩
        · rw [triangleWave_succ_of_ge h hdown]
          exact hahead
        · omega
      · rw [hahead, hspans, triangleWave_of_ge hdown]
        omega

theorem rides_iterate (hspans : Spans L r m.pos m.vel a b) (h : 1 ≤ a + b) (n : Nat) :
    ((Motion.advance L r)^[n] m).Rides m.pos m.vel a b n := by
  induction n with
  | zero => exact rides_zero h m
  | succ n ih =>
      rw [Function.iterate_succ_apply']
      exact ih.advance hspans h

theorem iterate_of_vel_eq_zero (h : m.vel = 0) (n : Nat) : (Motion.advance L r)^[n] m = m := by
  have hstep : m.advance L r = m := by
    obtain ⟨pos, vel⟩ := m
    obtain rfl : vel = 0 := h
    rw [advance_eq, neg_zero, sub_zero, add_zero, ite_self]
  exact Function.iterate_fixed hstep n

end Motion

/-! ## Fields -/

namespace Field

/-- Where the ball numbered `i` is on an axis after `n` steps. -/
def positionAt (f : Field Rat) (i : Nat) (axis : Axis) (n : Nat) : Option Rat :=
  (f.steps n).balls[i]?.map fun b => (b.along axis).pos

theorem positionAt_eq (f : Field Rat) {i : Nat} {ball : Ball Rat} (h : f.balls[i]? = some ball)
    (axis : Axis) (n : Nat) :
    f.positionAt i axis n
      = some ((Motion.advance (f.domain.extent axis) ball.radius)^[n] (ball.along axis)).pos := by
  obtain ⟨c, hc, halong⟩ := f.getElem?_steps_along h axis n
  rw [positionAt, hc, Option.map_some, halong]

/-- **The closed form of a bouncing run.** Take a ball of any field and an axis on which it starts
between the walls, at `x` with velocity `v`. If `v` is not zero and there is room for one step
forward or back, then the `k` for which `x + k·v` lies between the walls are an interval `-a … b` of
at least two, and after `n` steps the ball is at `x + k·v` for the `k` of the triangle wave on that
interval which starts at 0 going up and turns round at both ends at once. So its positions repeat
after `2·(a + b)` steps, from the start on, and in every such period it visits all the points. A
ball that does not move on an axis stays where it is. -/
theorem bouncing_run (f : Field Rat) {i : Nat} {ball : Ball Rat} (hball : f.balls[i]? = some ball)
    (axis : Axis) {L r x v : Rat} (hL : f.domain.extent axis = L) (hr : ball.radius = r)
    (hx : (ball.along axis).pos = x) (hv : (ball.along axis).vel = v) :
    (r ≤ x → x ≤ L - r → v ≠ 0 →
      (r ≤ x + v ∧ x + v ≤ L - r) ∨ (r ≤ x - v ∧ x - v ≤ L - r) →
      ∃ a b : Nat, (∀ k : Int, (r ≤ x + k * v ∧ x + k * v ≤ L - r) ↔ -(a : Int) ≤ k ∧ k ≤ b)
        ∧ 1 ≤ a + b
        ∧ Zigzag a b (triangleWave a b)
        ∧ (∀ n, f.positionAt i axis n = some (x + triangleWave a b n * v))
        ∧ (∀ n, f.positionAt i axis (n + 2 * (a + b)) = f.positionAt i axis n)
        ∧ ∀ n, ∀ k : Int, (r ≤ x + k * v ∧ x + k * v ≤ L - r) →
          ∃ j < 2 * (a + b), f.positionAt i axis (n + j) = some (x + k * v))
    ∧ (v = 0 → ∀ n, f.positionAt i axis n = some x) := by
  subst hL hr hx hv
  refine ⟨fun hlo hhi hmoves hroom => ?_, fun hrest n => ?_⟩
  · obtain ⟨a, b, hspans⟩ := exists_spans hlo hhi hmoves
    have hab := hspans.one_le hroom
    have hposition : ∀ n, f.positionAt i axis n
        = some ((ball.along axis).pos + triangleWave a b n * (ball.along axis).vel) := by
      intro n
      rw [f.positionAt_eq hball, (Motion.rides_iterate hspans hab n).1]
    refine ⟨a, b, hspans, hab, zigzag_triangleWave hab, hposition, fun n => ?_, fun n k hk => ?_⟩
    · rw [hposition, hposition, triangleWave_add_period]
    · obtain ⟨j, hj, hwave⟩ := exists_triangleWave_eq hab n ((hspans k).mp hk)
      exact ⟨j, hj, by rw [hposition, hwave]⟩
  · rw [f.positionAt_eq hball, Motion.iterate_of_vel_eq_zero hrest]

/-- A ball of radius 1 in a box of 10 by 7, going left from 4 in steps of 2, at rest on the other
axis. -/
def leftGoing : Field Rat := ⟨⟨10, 7⟩, [⟨0, ⟨4, -2⟩, ⟨3, 0⟩, 1, Color.white⟩], 0⟩

/-- The ball turns round at 2, one step ahead, and at 8, two steps behind its start, and is back
where it was after six steps. On the other axis it stays at 3. -/
theorem bouncing_run_leftGoing :
    (∀ n, leftGoing.positionAt 0 .horizontal n = some (4 + (triangleWave 2 1 n : Rat) * -2))
    ∧ (∀ n, leftGoing.positionAt 0 .horizontal (n + 6) = leftGoing.positionAt 0 .horizontal n)
    ∧ (∀ n, ∃ j < 6, leftGoing.positionAt 0 .horizontal (n + j) = some 8)
    ∧ ∀ n, leftGoing.positionAt 0 .vertical n = some 3 := by
  obtain ⟨a, b, hspans, -, -, hposition, hperiod, hvisits⟩ :=
    (bouncing_run leftGoing (i := 0) rfl .horizontal rfl rfl rfl rfl).1 (by decide +kernel)
      (by decide +kernel) (by decide +kernel) (Or.inl (by decide +kernel))
  change ∀ k : Int, (1 ≤ 4 + (k : Rat) * -2 ∧ 4 + (k : Rat) * -2 ≤ 10 - 1) ↔ _ at hspans
  -- The two ends, from the points on both sides of each.
  obtain rfl : b = 1 := by
    have hin := (hspans 1).mp (by norm_num)
    have hout := mt (hspans 2).mpr (by norm_num)
    omega
  obtain rfl : a = 2 := by
    have hin := (hspans (-2)).mp (by norm_num)
    have hout := mt (hspans (-3)).mpr (by norm_num)
    omega
  refine ⟨hposition, hperiod, fun n => ?_,
    (bouncing_run leftGoing (i := 0) rfl .vertical rfl rfl rfl rfl).2 rfl⟩
  obtain ⟨j, hj, hat⟩ := hvisits n (-2) (by decide +kernel)
  refine ⟨j, hj, hat.trans ?_⟩
  decide +kernel

end Field

end Ricochet
