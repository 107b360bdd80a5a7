import Mathlib.Algebra.Group.Nat.Defs
import Ricochet.Field.Sampling
import Ricochet.Random.Replay
import Ricochet.Proofs.FieldRun

set_option autoImplicit false

/-! # Balls do not influence each other

Neither in a run nor when a field is drawn at random. In a run every ball moves as it would alone
(`FieldRun`). A random field is drawn ball by ball, and each ball takes the same number of draws of
each kind from the source (`Source.afterBall`), so the state in which a ball finds the source
depends only on how many balls came before it (`Field.run_sampleBalls`). All of this holds for any
scalar, so on binary64 it holds bit for bit.

* `Field.sample_eq_ok`: a random field in closed form, with the state it leaves the source in.
* `Field.balls_are_independent`: both facts, for runs of fields and for random fields.
-/

namespace Ricochet

variable {σ α : Type}

/-! ## The draws of a ball -/

namespace Source

/-- The state after a fraction is drawn. -/
def afterFraction (src : Source σ α) (s : σ) : σ := (src.fraction s).2

/-- The state after an integer below `n` is drawn. -/
def afterBelow (src : Source σ α) (n : Nat) (s : σ) : σ := (src.below n s).2

/-- The state after the draws of one ball: five fractions, then three integers below 255. -/
def afterBall (src : Source σ α) (s : σ) : σ := (src.afterBelow 255)^[3] (src.afterFraction^[5] s)

/-- The fraction that is drawn after `k` others. -/
def fractionAt (src : Source σ α) (s : σ) (k : Nat) : α :=
  (src.fraction (src.afterFraction^[k] s)).1

/-- The integer that is drawn for the colour channel numbered `k` of a ball, after its fractions. -/
def channelAt (src : Source σ α) (s : σ) (k : Nat) : Int :=
  (src.below 255 ((src.afterBelow 255)^[k] (src.afterFraction^[5] s))).1

end Source

variable [Scalar α]

/-- A ball in a run keeps all it has but its two motions. -/
theorem Ball.advance_iterate (d : Domain α) (b : Ball α) (n : Nat) :
    (advance d)^[n] b =
      { b with
        x := (Motion.advance d.width b.radius)^[n] b.x
        y := (Motion.advance d.height b.radius)^[n] b.y } := by
  induction n with
  | zero => rfl
  | succ n ih =>
      rw [Function.iterate_succ_apply', ih, Function.iterate_succ_apply',
        Function.iterate_succ_apply']
      rfl

namespace Field

theorem length_balls_steps (n : Nat) (f : Field α) : (f.steps n).balls.length = f.balls.length := by
  rw [balls_steps, List.length_map]

/-! ## Random fields in closed form -/

/-- Whatever it is drawn from, a ball leaves the source in the state after its eight draws. -/
theorem state_sampleBall (src : Source σ α) (p : Params α) (i : Nat) (s : σ) :
    ((sampleBall src p i).run s).2 = src.afterBall s := rfl

/-- A ball in terms of its draws: radius, position, velocity, colour. The position is drawn from the
room that the radius leaves. -/
theorem ball_sampleBall (src : Source σ α) (p : Params α) (i : Nat) (s : σ) :
    ((sampleBall src p i).run s).1 =
      let r := p.radiusMin + src.fractionAt s 0 * (p.radiusMax - p.radiusMin)
      { id := i
        x := ⟨r + src.fractionAt s 1 * (p.domain.width - r - r),
          p.speedMin + src.fractionAt s 3 * (p.speedMax - p.speedMin)⟩
        y := ⟨r + src.fractionAt s 2 * (p.domain.height - r - r),
          p.speedMin + src.fractionAt s 4 * (p.speedMax - p.speedMin)⟩
        radius := r
        color := Color.rgb (channelOfInt (src.channelAt s 0)) (channelOfInt (src.channelAt s 1))
          (channelOfInt (src.channelAt s 2)) } := rfl

/-- The ball numbered `i` of the fields drawn from the state `s`: the balls before it have taken
their draws, and nothing else has. -/
def drawnBall (src : Source σ α) (p : Params α) (s : σ) (i : Nat) : Ball α :=
  ((sampleBall src p i).run (src.afterBall^[i] s)).1

/-- The loop over the balls. The ball that comes `j` places later finds the source `j` balls
later. -/
theorem run_sampleBalls (src : Source σ α) (p : Params α) (i count : Nat) (s : σ) :
    (sampleBalls src p i count).run s =
      ((List.range count).map fun j => ((sampleBall src p (i + j)).run (src.afterBall^[j] s)).1,
        src.afterBall^[count] s) := by
  induction count generalizing i s with
  | zero => rfl
  | succ count ih =>
      have hloop : (sampleBalls src p i (count + 1)).run s =
          (((sampleBall src p i).run s).1
            :: ((sampleBalls src p (i + 1) count).run ((sampleBall src p i).run s).2).1,
            ((sampleBalls src p (i + 1) count).run ((sampleBall src p i).run s).2).2) := rfl
      rw [hloop, state_sampleBall, ih, List.range_succ_eq_map, List.map_cons, List.map_map]
      -- Numbers and states are shifted by the ball that was just drawn.
      have hshift : (fun j => ((sampleBall src p (i + 1 + j)).run (src.afterBall^[j]
            (src.afterBall s))).1)
          = (fun j => ((sampleBall src p (i + j)).run (src.afterBall^[j] s)).1) ∘ Nat.succ := by
        funext j
        rw [Function.comp_apply, Function.iterate_succ_apply, Nat.succ_eq_add_one,
          Nat.add_right_comm, Nat.add_assoc]
      rw [hshift, Function.iterate_succ_apply]
      rfl

/-- Bounds that are usable stay so for any number of balls. -/
theorem fault?_with_count {p : Params α} (h : p.fault? = none) (n : Nat) :
    ({ p with count := (n : Int) } : Params α).fault? = none := by
  have hn : ¬ (n : Int) < 0 := Int.not_lt.mpr (Int.natCast_nonneg n)
  unfold Params.fault? at h ⊢
  split at h
  · cases h
  · rw [if_neg hn]
    exact h

/-- **Random fields.** From usable bounds `n` balls are drawn, each from the state that the draws of
those before it left, and the source is left in the state after `n` balls. -/
theorem sample_eq_ok (src : Source σ α) {p : Params α} (h : p.fault? = none) (n : Nat) (s : σ) :
    sample src { p with count := (n : Int) } s =
      .ok (⟨p.domain, (List.range n).map (drawnBall src p s), 0⟩, src.afterBall^[n] s) := by
  have hballs : (sampleBalls src { p with count := (n : Int) } 0 n).run s
      = ((List.range n).map (drawnBall src p s), src.afterBall^[n] s) := by
    rw [run_sampleBalls]
    simp only [Nat.zero_add]
    rfl
  unfold sample
  rw [Draw.kept_eq_ok_iff, run_sampling_of_no_fault src (fault?_with_count h n)]
  simp only [Int.toNat_natCast, hballs, and_self]

end Field

/-! ## Usable bounds -/

namespace Params

/-- What the bounds of a random field are tested for. -/
structure Usable (p : Params α) : Prop where
  count : 0 ≤ p.count
  radiusMin : Scalar.zero < p.radiusMin
  radiusMax : p.radiusMin < p.radiusMax
  room : ∀ a, Scalar.ofInt 2 * p.radiusMax < p.domain.extent a
  speed : p.speedMin ≤ p.speedMax
  speedMin : Scalar.isInfinite p.speedMin = false
  speedMax : Scalar.isInfinite p.speedMax = false

/-- A test that reports nothing was passed, and so were those after it. -/
theorem passed_of_eq_none {ε : Type} {c : Prop} [Decidable c] {e : ε} {rest : Option ε}
    (h : (if c then some e else rest) = none) : ¬ c ∧ rest = none := by
  split at h
  · cases h
  · exact ⟨‹_›, h⟩

theorem usable_of_fault? {p : Params α} (h : p.fault? = none) : p.Usable := by
  obtain ⟨hcount, h⟩ := passed_of_eq_none h
  obtain ⟨hmin, h⟩ := passed_of_eq_none h
  obtain ⟨hmax, h⟩ := passed_of_eq_none h
  obtain ⟨hwidth, h⟩ := passed_of_eq_none h
  obtain ⟨hheight, h⟩ := passed_of_eq_none h
  obtain ⟨hspeed, -⟩ := passed_of_eq_none h
  simp only [not_or, not_not, Bool.not_eq_true] at hspeed
  exact {
    count := Int.not_lt.mp hcount
    radiusMin := not_not.mp hmin
    radiusMax := not_not.mp hmax
    room := fun a => by
      cases a with
      | horizontal => exact not_not.mp hwidth
      | vertical => exact not_not.mp hheight
    speed := hspeed.1
    speedMin := hspeed.2.2
    speedMax := hspeed.2.1 }

/-- Nothing is found wrong with the bounds if and only if they pass every test. -/
theorem fault?_eq_none_iff {p : Params α} : p.fault? = none ↔ p.Usable := by
  refine ⟨usable_of_fault?, fun h => ?_⟩
  have hspeeds : ¬ (¬ p.speedMin ≤ p.speedMax ∨ Scalar.isInfinite p.speedMax = true
      ∨ Scalar.isInfinite p.speedMin = true) := by
    rw [h.speedMin, h.speedMax]
    simpa using h.speed
  have hwidth : Scalar.ofInt 2 * p.radiusMax < p.domain.width := h.room .horizontal
  have hheight : Scalar.ofInt 2 * p.radiusMax < p.domain.height := h.room .vertical
  unfold fault?
  rw [if_neg (Int.not_lt.mpr h.count), if_neg (not_not.mpr h.radiusMin),
    if_neg (not_not.mpr h.radiusMax), if_neg (not_not.mpr hwidth), if_neg (not_not.mpr hheight),
    if_neg hspeeds]

end Params

namespace Field

/-- A random field of usable bounds has as many balls as they ask for. -/
theorem sample_of_usable (src : Source σ α) {p : Params α} (h : p.Usable) (s : σ) :
    sample src p s = .ok (⟨p.domain, (List.range p.count.toNat).map (drawnBall src p s), 0⟩,
      src.afterBall^[p.count.toNat] s) := by
  have hcount : { p with count := (p.count.toNat : Int) } = p := by
    rw [Int.toNat_of_nonneg h.count]
  have hsample := sample_eq_ok src (Params.fault?_eq_none_iff.mpr h) p.count.toNat s
  rw [hcount] at hsample
  exact hsample

theorem usable_of_sample {src : Source σ α} {p : Params α} {s : σ} {r : Field α × σ}
    (h : sample src p s = .ok r) : p.Usable := by
  cases hp : p.fault? with
  | some e =>
      have hok : ((sampling src p).run s).1 = .ok r.1 := (Draw.kept_eq_ok_iff.mp h).1
      rw [run_sampling_of_fault src hp] at hok
      cases hok
  | none => exact Params.usable_of_fault? hp

/-! ## Larger and smaller fields -/

/-- Of two fields drawn from the same state the smaller one is the beginning of the larger one, and
stays so in every run. -/
theorem balls_steps_take (d : Domain α) (draw : Nat → Ball α) {k n : Nat} (h : k ≤ n) (t : Nat) :
    (steps t ⟨d, (List.range k).map draw, 0⟩).balls
      = (steps t ⟨d, (List.range n).map draw, 0⟩).balls.take k := by
  rw [balls_steps, balls_steps, ← List.map_take, ← List.map_take, List.take_range,
    Nat.min_eq_left h]

/-! ## Independence -/

/-- **Balls never influence each other.** In every run of every field, each ball is the ball it was,
advanced on its own as often as the field was; it is the ball that a field with nothing else in it
would hold, with its number, radius and colour; domain and number of balls stay, and the tick counts
the steps modulo `2^64`.

Drawn at random from the same bounds and the same state of a source, a field of `k` balls and one of
at least as many both exist, and the first is the beginning of the second after any number of steps.
The ball numbered `i` is drawn from the state that `i` balls before it left, and each ball takes
exactly five fractions and then three integers below 255. -/
theorem balls_are_independent :
    (∀ (f : Field α) (t : Nat),
      (∀ (i : Nat) (b : Ball α), f.balls[i]? = some b →
        ∃ c, (f.steps t).balls[i]? = some c ∧ c = (Ball.advance f.domain)^[t] b
          ∧ (∀ tick, (steps t ⟨f.domain, [b], tick⟩).balls = [c])
          ∧ c.id = b.id ∧ c.radius = b.radius ∧ c.color = b.color)
      ∧ (f.steps t).domain = f.domain ∧ (f.steps t).balls.length = f.balls.length
      ∧ (f.steps t).tick.toNat = (f.tick.toNat + t) % 2 ^ 64)
    ∧ ∀ (σ : Type) (src : Source σ α) (p : Params α) (s : σ) (k n : Nat), p.fault? = none → k ≤ n →
      ∃ few many, sample src { p with count := (k : Int) } s = .ok (few, src.afterBall^[k] s)
        ∧ sample src { p with count := (n : Int) } s = .ok (many, src.afterBall^[n] s)
        ∧ few.balls.length = k ∧ many.balls.length = n
        ∧ (∀ t, (few.steps t).balls = (many.steps t).balls.take k)
        ∧ ∀ i, i < n → ∃ b, many.balls[i]? = some b
          ∧ (sampleBall src p i).run (src.afterBall^[i] s) = (b, src.afterBall^[i + 1] s) := by
  refine ⟨fun f t => ⟨fun i b hb => ?_, domain_steps t f, length_balls_steps t f, ?_⟩,
    fun σ src p s k n hp hk => ?_⟩
  · refine ⟨(Ball.advance f.domain)^[t] b, ?_, rfl, fun tick => ?_, ?_⟩
    · rw [getElem?_balls_steps, hb]
      rfl
    · rw [balls_steps]
      rfl
    · rw [Ball.advance_iterate]
      exact ⟨rfl, rfl, rfl⟩
  · rw [tick_steps, UInt64.toNat_add, UInt64.toNat_ofNat', Nat.add_mod_mod]
  · refine ⟨_, _, sample_eq_ok src hp k s, sample_eq_ok src hp n s, ?_, ?_,
      balls_steps_take p.domain _ hk, fun i hi => ⟨drawnBall src p s i, ?_, ?_⟩⟩
    · rw [List.length_map, List.length_range]
    · rw [List.length_map, List.length_range]
    · rw [List.getElem?_map, List.getElem?_range hi]
      rfl
    · rw [Function.iterate_succ_apply']
      rfl

/-- Bounds for balls in a box of 10 by 12. -/
def pairBounds : Params Float :=
  { domain := ⟨10, 12⟩, count := 0, radiusMin := 1, radiusMax := 2, speedMin := -1, speedMax := 1 }

/-- Draws that differ from ball to ball. -/
def pairDraws : Replay := .ofLists #[0.25, 0.5, 0.75] #[7, 300]

/-- A single ball and a pair drawn from the same lists: the single ball is the first of the pair,
five steps later too, and the pair has taken two times eight draws. -/
theorem balls_are_independent_pair :
    pairBounds.fault? = none
    ∧ (Replay.source.afterBall^[2] pairDraws).recordText
      = "FFFFFI255I255I255FFFFFI255I255I255"
    ∧ ∃ one two, sample Replay.source { pairBounds with count := 1 } pairDraws
        = .ok (one, Replay.source.afterBall^[1] pairDraws)
      ∧ sample Replay.source { pairBounds with count := 2 } pairDraws
        = .ok (two, Replay.source.afterBall^[2] pairDraws)
      ∧ (one.steps 5).balls = (two.steps 5).balls.take 1 := by
  have husable : pairBounds.fault? = none := by decide +kernel
  obtain ⟨one, two, hone, htwo, -, -, hruns, -⟩ :=
    balls_are_independent.2 Replay Replay.source pairBounds pairDraws 1 2 husable (by decide)
  exact ⟨husable, by decide +kernel, one, two, hone, htwo, hruns 5⟩

end Field

end Ricochet
