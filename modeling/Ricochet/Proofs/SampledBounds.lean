import Ricochet.Proofs.Containment
import Ricochet.Proofs.Independence

set_option autoImplicit false

/-! # Random fields are within their bounds

Every number of a random ball is a point `lo + t * (hi - lo)` between two bounds. Over the rational
numbers, with `t` from zero up to, and without, one, it lies from `lo` up to, and without, `hi`
(`Field.between_mem`). The bounds of a position depend on the radius that was drawn before it: the
test that the domain is wider than twice the greatest radius leaves room for every radius that can
be drawn (`Params.Usable.room_lt`). The integers of a colour lie below 255, so they fit their
channels (`toNat_channelOfInt`).

* `Field.respects_drawnBall`: one ball, whatever state it finds the source in.
* `Field.sampled_within_bounds`: all balls, and that they pass the checks of a field placed by hand.
-/

namespace Ricochet

variable {σ : Type}

/-- What a source promises: fractions from zero up to one, and integers from zero up to their
bound. -/
structure Source.InRange (src : Source σ Rat) : Prop where
  fraction : ∀ s, 0 ≤ (src.fraction s).1 ∧ (src.fraction s).1 < 1
  below : ∀ n s, 0 < n → 0 ≤ (src.below n s).1 ∧ (src.below n s).1 < n

/-- What the bounds promise of a ball. A velocity is below the greatest speed unless that is also
the least, which it then has. -/
structure Ball.Respects (p : Params Rat) (b : Ball Rat) : Prop where
  radius : p.radiusMin ≤ b.radius ∧ b.radius < p.radiusMax
  pos : ∀ a, b.radius ≤ (b.along a).pos ∧ (b.along a).pos < p.domain.extent a - b.radius
  vel : ∀ a, p.speedMin ≤ (b.along a).vel
    ∧ (p.speedMin < p.speedMax → (b.along a).vel < p.speedMax)
    ∧ (p.speedMin = p.speedMax → (b.along a).vel = p.speedMin)
  colored : b.color.set = true
  channels : b.color.red.toNat < 255 ∧ b.color.green.toNat < 255 ∧ b.color.blue.toNat < 255

/-- An integer that is drawn for a colour channel is kept as it is. -/
theorem toNat_channelOfInt {n : Int} (h : 0 ≤ n ∧ n < 255) :
    ((channelOfInt n).toNat : Int) = n := by
  have hsmall : (n % 256).toNat < 256 := by omega
  have hnat : (channelOfInt n).toNat = (n % 256).toNat := by
    unfold channelOfInt
    rw [Nat.toUInt8, UInt8.toNat_ofNat_of_lt' hsmall]
  omega

/-! ## Usable bounds over the rational numbers -/

namespace Params

variable {p : Params Rat}

theorem Usable.radiusMin_pos (h : p.Usable) : 0 < p.radiusMin := h.radiusMin

/-- Every radius that can be drawn leaves room on both axes. -/
theorem Usable.room_lt (h : p.Usable) (a : Axis) {r : Rat} (hr : r < p.radiusMax) :
    r < p.domain.extent a - r := by
  have hroom : 2 * p.radiusMax < p.domain.extent a := h.room a
  linarith

theorem validate_eq_ok_iff : p.validate = .ok () ↔ p.Usable := by
  rw [← fault?_eq_none_iff]
  unfold validate
  cases p.fault? with
  | none => simp
  | some e => simp

end Params

namespace Field

variable {src : Source σ Rat} {p : Params Rat}

/-! ## One ball -/

/-- A point drawn between two bounds. -/
theorem between_mem {lo hi t : Rat} (h : lo < hi) (ht : 0 ≤ t ∧ t < 1) :
    lo ≤ lo + t * (hi - lo) ∧ lo + t * (hi - lo) < hi := by
  have hwidth : 0 < hi - lo := sub_pos.mpr h
  have hlo : 0 ≤ t * (hi - lo) := mul_nonneg ht.1 hwidth.le
  have hhi : t * (hi - lo) < hi - lo := mul_lt_of_lt_one_left hwidth ht.2
  constructor <;> linarith

theorem speed_between_mem {lo hi t : Rat} (h : lo ≤ hi) (ht : 0 ≤ t ∧ t < 1) :
    lo ≤ lo + t * (hi - lo) ∧ (lo < hi → lo + t * (hi - lo) < hi)
      ∧ (lo = hi → lo + t * (hi - lo) = lo) := by
  refine ⟨?_, fun hlt => (between_mem hlt ht).2, fun heq => ?_⟩
  · have hlo : 0 ≤ t * (hi - lo) := mul_nonneg ht.1 (sub_nonneg.mpr h)
    linarith
  · rw [heq, sub_self, mul_zero, add_zero]

theorem fractionAt_mem (hsrc : src.InRange) (s : σ) (k : Nat) :
    0 ≤ src.fractionAt s k ∧ src.fractionAt s k < 1 :=
  hsrc.fraction _

theorem channelAt_mem (hsrc : src.InRange) (s : σ) (k : Nat) :
    0 ≤ src.channelAt s k ∧ src.channelAt s k < 255 :=
  hsrc.below 255 _ (by decide)

/-- The channels of a drawn ball are the integers that were drawn for them. -/
theorem channels_drawnBall (hsrc : src.InRange) (p : Params Rat) (s : σ) (i : Nat) :
    ((drawnBall src p s i).color.red.toNat : Int) = src.channelAt (src.afterBall^[i] s) 0
    ∧ ((drawnBall src p s i).color.green.toNat : Int) = src.channelAt (src.afterBall^[i] s) 1
    ∧ ((drawnBall src p s i).color.blue.toNat : Int) = src.channelAt (src.afterBall^[i] s) 2 := by
  unfold drawnBall
  rw [ball_sampleBall]
  exact ⟨toNat_channelOfInt (channelAt_mem hsrc _ 0), toNat_channelOfInt (channelAt_mem hsrc _ 1),
    toNat_channelOfInt (channelAt_mem hsrc _ 2)⟩

/-- A drawn ball is within the bounds, whatever state it finds the source in. -/
theorem respects_drawnBall (hsrc : src.InRange) (hp : p.Usable) (s : σ) (i : Nat) :
    (drawnBall src p s i).Respects p := by
  have hradius : p.radiusMin ≤ (drawnBall src p s i).radius
      ∧ (drawnBall src p s i).radius < p.radiusMax := by
    unfold drawnBall
    rw [ball_sampleBall]
    exact between_mem hp.radiusMax (fractionAt_mem hsrc _ 0)
  -- The radius comes first; the other numbers are drawn from what it leaves.
  refine ⟨hradius, fun a => ?_, fun a => ?_, rfl, ?_⟩
  · have hroom := hp.room_lt a hradius.2
    unfold drawnBall at hroom ⊢
    rw [ball_sampleBall] at hroom ⊢
    cases a with
    | horizontal => exact between_mem hroom (fractionAt_mem hsrc _ 1)
    | vertical => exact between_mem hroom (fractionAt_mem hsrc _ 2)
  · unfold drawnBall
    rw [ball_sampleBall]
    cases a with
    | horizontal => exact speed_between_mem hp.speed (fractionAt_mem hsrc _ 3)
    | vertical => exact speed_between_mem hp.speed (fractionAt_mem hsrc _ 4)
  · obtain ⟨hred, hgreen, hblue⟩ := channels_drawnBall hsrc p s i
    have hr := channelAt_mem hsrc (src.afterBall^[i] s) 0
    have hg := channelAt_mem hsrc (src.afterBall^[i] s) 1
    have hb := channelAt_mem hsrc (src.afterBall^[i] s) 2
    omega

/-! ## All balls -/

theorem eq_drawnBall {s : σ} {n i : Nat} {b : Ball Rat}
    (h : ((List.range n).map (drawnBall src p s))[i]? = some b) : b = drawnBall src p s i := by
  obtain ⟨hlt, heq⟩ := List.getElem?_eq_some_iff.mp h
  rw [List.getElem_map, List.getElem_range] at heq
  exact heq.symm

theorem numberedFrom_eq_self {balls : List (Ball Rat)}
    (h : ∀ (i : Nat) (b : Ball Rat), balls[i]? = some b → b.id = i) :
    numberedFrom 0 balls = balls := by
  apply List.ext_getElem?
  intro i
  rw [numberedFrom, List.getElem?_mapIdx]
  cases hb : balls[i]? with
  | none => rfl
  | some b =>
      have hid : ((0 + i : Nat) : Int) = b.id := by rw [Nat.zero_add, h i b hb]
      rw [Option.map_some, hid]

theorem fits_of_respects (hp : p.Usable) {b : Ball Rat} (hb : b.Respects p) : Fits p.domain b := by
  refine ⟨hp.radiusMin_pos.trans_le hb.radius.1, ?_⟩
  rw [Ball.inside_iff]
  intro a
  exact ⟨(hb.pos a).1, (hb.pos a).2.le⟩

theorem domainFits_of_usable (hp : p.Usable) : domainFits p.domain = true := by
  have hside : ∀ a, (Scalar.zero : Rat) < p.domain.extent a := by
    intro a
    have hmin : 0 < p.radiusMin := hp.radiusMin_pos
    have hroom := hp.room_lt a hp.radiusMax
    show 0 < p.domain.extent a
    linarith
  have hwidth : (Scalar.zero : Rat) < p.domain.width := hside .horizontal
  have hheight : (Scalar.zero : Rat) < p.domain.height := hside .vertical
  simp [domainFits, hwidth, hheight, Scalar.isInfinite]

/-- **Random fields are within their bounds.** From bounds that pass their check, and a source whose
fractions lie from zero up to one and whose integers lie from zero up to their bound, a field comes
with as many balls as asked for, at tick zero. The balls are numbered by their places, every one
respects the bounds, and its colour channels are the integers that were drawn for them. Placed by
hand in the same domain, the balls of the field pass all checks and make the same field. -/
theorem sampled_within_bounds (hsrc : src.InRange) (hp : p.validate = .ok ()) (s : σ) :
    ∃ f s', sample src p s = .ok (f, s') ∧ f.domain = p.domain ∧ f.tick = 0
      ∧ (f.balls.length : Int) = p.count
      ∧ (∀ (i : Nat) (b : Ball Rat), f.balls[i]? = some b → b.id = i ∧ b.Respects p
        ∧ (b.color.red.toNat : Int) = src.channelAt (src.afterBall^[i] s) 0
        ∧ (b.color.green.toNat : Int) = src.channelAt (src.afterBall^[i] s) 1
        ∧ (b.color.blue.toNat : Int) = src.channelAt (src.afterBall^[i] s) 2)
      ∧ ofBalls f.domain f.balls = .ok f := by
  have hp : p.Usable := Params.validate_eq_ok_iff.mp hp
  refine ⟨_, _, sample_of_usable src hp s, rfl, rfl, ?_, fun i b hb => ?_, ?_⟩
  · rw [List.length_map, List.length_range, Int.toNat_of_nonneg hp.count]
  · rw [eq_drawnBall hb]
    exact ⟨rfl, respects_drawnBall hsrc hp s i, channels_drawnBall hsrc p s i⟩
  · rw [ofBalls_eq_ok]
    refine ⟨domainFits_of_usable hp, fun b hb => ?_, ?_⟩
    · obtain ⟨i, -, rfl⟩ := List.mem_map.mp hb
      exact fits_of_respects hp (respects_drawnBall hsrc hp s i)
    · rw [numberedFrom_eq_self]
      intro i b hb
      rw [eq_drawnBall hb]
      rfl

/-- A source that counts its draws: the fractions go round in fifths, the integers in hundreds. -/
def fifths : Source Nat Rat where
  fraction n := (((n % 5 : Nat) : Rat) / 5, n + 1)
  below k n := (((100 * n % k : Nat) : Int), n + 1)

theorem inRange_fifths : fifths.InRange := by
  refine ⟨fun n => ?_, fun k n hk => ?_⟩
  · have hlt : ((n % 5 : Nat) : Rat) < 5 := by exact_mod_cast Nat.mod_lt n (by decide)
    have hge : (0 : Rat) ≤ ((n % 5 : Nat) : Rat) := Nat.cast_nonneg _
    show 0 ≤ ((n % 5 : Nat) : Rat) / 5 ∧ ((n % 5 : Nat) : Rat) / 5 < 1
    constructor <;> linarith
  · exact ⟨Int.natCast_nonneg _, Int.ofNat_lt.mpr (Nat.mod_lt _ hk)⟩

/-- Bounds for three balls of one speed, in a box that is hardly wider than the largest ball. -/
def tightBounds : Params Rat :=
  { domain := ⟨5, 12⟩, count := 3, radiusMin := 1, radiusMax := 9 / 4, speedMin := 2,
    speedMax := 2 }

/-- Three balls are drawn. The second respects the bounds, has the one speed there is, and the blue
channel that was drawn last for it. The three make the same field again. -/
theorem sampled_within_bounds_tight :
    fifths.InRange ∧ tightBounds.validate = .ok ()
    ∧ ∃ f s', sample fifths tightBounds 0 = .ok (f, s') ∧ f.balls.length = 3
      ∧ (∃ b, f.balls[1]? = some b ∧ b.Respects tightBounds ∧ b.y.vel = 2
        ∧ (b.color.blue.toNat : Int) = 225)
      ∧ ofBalls f.domain f.balls = .ok f := by
  have hp : tightBounds.validate = .ok () := by decide +kernel
  obtain ⟨f, s', hf, -, -, hcount, hballs, hagain⟩ := sampled_within_bounds inRange_fifths hp 0
  have hlength : f.balls.length = 3 := Int.ofNat_inj.mp hcount
  have hsecond : f.balls[1]? = some f.balls[1] := List.getElem?_eq_getElem (by omega)
  obtain ⟨-, hrespects, -, -, hblue⟩ := hballs 1 _ hsecond
  have hchannel : fifths.channelAt (fifths.afterBall^[1] 0) 2 = 225 := by decide +kernel
  exact ⟨inRange_fifths, hp, f, s', hf, hlength,
    ⟨_, hsecond, hrespects, (hrespects.vel .vertical).2.2 rfl, hblue.trans hchannel⟩, hagain⟩

end Field

end Ricochet
