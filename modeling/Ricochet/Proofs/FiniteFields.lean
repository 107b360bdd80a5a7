import Ricochet.Proofs.FloatArithmetic
import Ricochet.Proofs.Independence

set_option autoImplicit false

/-! # Which fields are finite

A field is finite if the sides of its domain and the radius, position and velocity of every ball are
finite binary64 numbers. Neither way to build a field makes sure of that. The bounds of a random
field are not tested for infinite sides, and two finite speeds may lie too far apart for their
difference to be finite; balls placed by hand are not tested for their velocities. These are the
only ways: `Field.built_field_isFinite_iff` says exactly when a field that was built is finite, and
`Field.unbounded_field_built` has a field for each of them.

Every number of a random ball is a point `lo + t * (hi - lo)` between two bounds, with `t` a
fraction from zero up to, and without, one. The main step is `Binary64.isFinite_between`: such a
point is finite whenever the bounds and their difference are, in spite of three roundings.
-/

namespace Ricochet

namespace Binary64

open Float.Model (Format UnpackedFloat)
open Float.Model.UnpackedFloat

/-! ## A point between two bounds

The sum `lo + t * (hi - lo)` is rounded three times. Of these roundings two can go up, so that near
the greatest numbers the sum could come out above `hi` and be infinite. It does not, because `t` is
less than one by at least `2^-53`, which takes away what the roundings can add. -/

theorem Nearest.eq_of_representable {z x : ℚ} (h : Nearest z x) (hz : Representable z) : x = z :=
  le_antisymm (h.le_of_le hz le_rfl) (h.ge_of_ge hz le_rfl)

theorem Representable.two_mul {q : ℚ} (h : Representable q) : Representable (2 * q) := by
  obtain ⟨k, e, hk, he, rfl⟩ := h
  refine ⟨k, e + 1, hk, by omega, ?_⟩
  rw [two_zpow_add]
  ring

theorem representable_limit : Representable limit :=
  ⟨1, 1024, by norm_num, by norm_num, by rw [limit, Int.cast_one, one_mul]⟩

theorem representable_half_limit : Representable (limit / 2) :=
  ⟨1, 1023, by norm_num, by norm_num, by rw [half_limit_eq, Int.cast_one, one_mul]⟩

/-- The error of a rounding, up to the limit. -/
theorem Nearest.error_le_halfStep {z x : ℚ} (h : Nearest z x) (hz : |z| ≤ limit) :
    |x - z| ≤ halfStep := by
  have hle := h.error_le (e := 971) (by norm_num) hz
  rw [step_eq] at hle
  linarith

/-- The error of a rounding, up to half the limit. -/
theorem Nearest.error_le_of_le_half {z x : ℚ} (h : Nearest z x) (hz : |z| ≤ limit / 2) :
    |x - z| ≤ halfStep / 2 := by
  rw [half_limit_eq] at hz
  exact h.error_le (e := 970) (by norm_num) hz

/-- A fraction of a number from the upper half is less by half a step at least. -/
theorem fraction_mul_le {t d : ℚ} (ht : Representable t) (ht1 : t < 1) (hd : limit / 2 ≤ d) :
    t * d ≤ d - halfStep ∧ (limit / 2 < d → t * d < d - halfStep) := by
  have hone : (2 : ℚ) ^ ((-53 : ℤ) + 53) = 1 := by norm_num
  have hroom : t ≤ 1 - 2 ^ (-53 : ℤ) := by
    have hle := ht.le_of_lt (n := -53) (ht1.trans_eq hone.symm)
    rwa [hone] at hle
  have hunit : limit / 2 * 2 ^ (-53 : ℤ) = halfStep := by
    rw [half_limit_eq]
    exact (two_zpow_add 1023 (-53)).symm
  have hsmall : (0 : ℚ) < 2 ^ (-53 : ℤ) := two_zpow_pos _
  have hd0 : 0 < d := lt_of_lt_of_le (by linarith [limit_pos]) hd
  have hle : t * d ≤ d - d * 2 ^ (-53 : ℤ) :=
    calc t * d ≤ (1 - 2 ^ (-53 : ℤ)) * d := mul_le_mul_of_nonneg_right hroom hd0.le
      _ = d - d * 2 ^ (-53 : ℤ) := by ring
  constructor
  · have hpart : halfStep ≤ d * 2 ^ (-53 : ℤ) :=
      hunit ▸ mul_le_mul_of_nonneg_right hd hsmall.le
    exact hle.trans (sub_le_sub_left hpart d)
  · intro hlt
    have hpart : halfStep < d * 2 ^ (-53 : ℤ) := hunit ▸ mul_lt_mul_of_pos_right hlt hsmall
    exact hle.trans_lt (sub_lt_sub_left hpart d)

/-- Above a positive bound the sum stays below the point from which on it would be infinite. -/
theorem sum_lt {lo hi d t c : ℚ} (hlo : 0 ≤ lo) (hlo' : lo ≤ limit - 2 * halfStep)
    (hhi : hi ≤ limit - 2 * halfStep) (hd : Nearest (hi - lo) d) (hd0 : 0 ≤ d)
    (ht : Representable t) (ht0 : 0 ≤ t) (ht1 : t < 1) (hc : Nearest (t * d) c) :
    lo + c < limit - halfStep := by
  have hstep := halfStep_pos
  have htd0 : 0 ≤ t * d := mul_nonneg ht0 hd0
  have htd : t * d ≤ d := mul_le_of_le_one_left hd0 ht1.le
  have hcd : c ≤ d := hc.le_of_le hd.representable htd
  by_cases hwidth : hi - lo ≤ 0
  · -- An empty range: nothing is added.
    have := hd.le_of_le representable_zero hwidth
    linarith
  · have hhi' : hi - lo ≤ limit := by linarith
    have habs : |hi - lo| = hi - lo := abs_of_pos (not_le.mp hwidth)
    by_cases hsmall : d < limit / 2
    · have hzsmall : hi - lo ≤ limit / 2 := by
        by_contra hlarge
        have := hd.ge_of_ge representable_half_limit (not_le.mp hlarge).le
        linarith
      have herror := abs_le.mp (hd.error_le_of_le_half (habs.trans_le hzsmall))
      linarith
    · have hlarge : limit / 2 ≤ d := not_lt.mp hsmall
      obtain ⟨hfraction, hfraction'⟩ := fraction_mul_le ht ht1 hlarge
      have herror := abs_le.mp (hd.error_le_halfStep (habs.trans_le hhi'))
      by_cases hproduct : t * d ≤ limit / 2
      · have herror' := abs_le.mp (hc.error_le_of_le_half ((abs_of_nonneg htd0).trans_le hproduct))
        linarith
      · -- The product is in the upper half too, so `d` lies strictly above its lower end.
        have hstrict := hfraction' (by linarith)
        have hdlimit : d ≤ limit := hd.le_of_le representable_limit hhi'
        have herror' := abs_le.mp
          (hc.error_le_halfStep ((abs_of_nonneg htd0).trans_le (htd.trans hdlimit)))
        linarith

/-- A binary64 number from zero up to, and without, one. -/
def IsFraction (t : Float) : Prop := 0 ≤ t ∧ t < 1

instance (t : Float) : Decidable (IsFraction t) := inferInstanceAs (Decidable (_ ∧ _))

/-- The point between two bounds at a fraction of the way. -/
def between (lo hi t : Float) : Float := lo + t * (hi - lo)

theorem value_zero : value 0 = 0 := rfl

theorem value_one : value 1 = 1 := by
  have hone : unpacked 1 = .finite .positive (2 ^ 52) (-52) (by norm_num) := rfl
  rw [value, hone]
  norm_num [exactValue, Float.Model.UnpackedFloat.Sign.apply]

section Between

variable {lo hi t : Float}

theorem IsFraction.isFinite (h : IsFraction t) : t.isFinite = true := by
  have hle : t ≤ 1 := by
    rw [le_iff_compare, lt_iff_compare.mp h.2]
    rfl
  exact isFinite_of_between (by decide) (by decide) h.1 hle

theorem IsFraction.value_mem (h : IsFraction t) : 0 ≤ value t ∧ value t < 1 := by
  have hlo := (le_iff_value (by decide) h.isFinite).mp h.1
  have hhi := (lt_iff_value h.isFinite (by decide)).mp h.2
  rw [value_zero] at hlo
  rw [value_one] at hhi
  exact ⟨hlo, hhi⟩

/-- The product of a fraction and a finite number is finite, and what is added to the lower bound
lies between zero and the width of the range. -/
theorem exists_delivers_between (hlo : lo.isFinite = true) (hwidth : (hi - lo).isFinite = true)
    (ht : IsFraction t) :
    ∃ c, Nearest (value t * value (hi - lo)) c ∧ Delivers (value lo + c) (between lo hi t)
      ∧ (0 ≤ value (hi - lo) → 0 ≤ c ∧ c ≤ value (hi - lo))
      ∧ (value (hi - lo) ≤ 0 → value (hi - lo) ≤ c ∧ c ≤ 0) := by
  obtain ⟨ht0, ht1⟩ := ht.value_mem
  have hrep := representable_value hwidth
  have hproduct : |value t * value (hi - lo)| < limit - halfStep := by
    rw [abs_mul, abs_of_nonneg ht0]
    have hle : value t * |value (hi - lo)| ≤ |value (hi - lo)| :=
      mul_le_of_le_one_left (abs_nonneg _) ht1.le
    linarith [abs_value_le hwidth, halfStep_pos]
  obtain ⟨hfinite, hc⟩ := (delivers_mul ht.isFinite hwidth).of_abs_lt hproduct
  refine ⟨_, hc, delivers_add hlo hfinite, fun hd => ⟨?_, ?_⟩, fun hd => ⟨?_, ?_⟩⟩
  · exact hc.ge_of_ge representable_zero (mul_nonneg ht0 hd)
  · exact hc.le_of_le hrep (mul_le_of_le_one_left hd ht1.le)
  · exact hc.ge_of_ge hrep (by nlinarith)
  · exact hc.le_of_le representable_zero (mul_nonpos_of_nonneg_of_nonpos ht0 hd)

/-- **Points between two bounds are finite** if the bounds and the width of the range are, and the
range does not run from a negative bound downward. -/
theorem isFinite_between (hlo : lo.isFinite = true) (hhi : hi.isFinite = true)
    (hwidth : (hi - lo).isFinite = true) (ht : IsFraction t)
    (hsign : 0 ≤ value lo ∨ 0 ≤ value (hi - lo)) : (between lo hi t).isFinite = true := by
  obtain ⟨c, hc, hsum, hup, hdown⟩ := exists_delivers_between hlo hwidth ht
  obtain ⟨ht0, ht1⟩ := ht.value_mem
  have hstep := halfStep_pos
  have hlo' := abs_le.mp (abs_value_le hlo)
  have hhi' := abs_le.mp (abs_value_le hhi)
  have hwidth' := abs_le.mp (abs_value_le hwidth)
  refine (hsum.of_abs_lt (abs_lt.mpr ?_)).1
  rcases le_total 0 (value (hi - lo)) with hd | hd
  · obtain ⟨hc0, hcd⟩ := hup hd
    refine ⟨by linarith, ?_⟩
    rcases le_total 0 (value lo) with hpos | hneg
    · exact sum_lt hpos hlo'.2 hhi'.2 ((delivers_sub hhi hlo).nearest hwidth) hd
        (representable_value ht.isFinite) ht0 ht1 hc
    · linarith
  · obtain ⟨hcd, hc0⟩ := hdown hd
    rcases hsign with hsign | hsign
    · constructor <;> linarith
    · constructor <;> linarith

/-- Where a point between two bounds lies: not below the lower one, and not above any number that
the lower bound and the width of the range do not exceed together. -/
theorem value_between (hlo : lo.isFinite = true) (hwidth : (hi - lo).isFinite = true)
    (ht : IsFraction t) (hd : 0 ≤ value (hi - lo)) (hfinite : (between lo hi t).isFinite = true) :
    value lo ≤ value (between lo hi t)
      ∧ ∀ q, Representable q → value lo + value (hi - lo) ≤ q → value (between lo hi t) ≤ q := by
  obtain ⟨c, -, hsum, hup, -⟩ := exists_delivers_between hlo hwidth ht
  obtain ⟨hc0, hcd⟩ := hup hd
  have hnearest := hsum.nearest hfinite
  exact ⟨hnearest.ge_of_ge (representable_value hlo) (by linarith),
    fun q hq hle => hnearest.le_of_le hq (by linarith)⟩

/-- A finite point has a finite upper bound and a finite range. -/
theorem isFinite_of_isFinite_between (h : (between lo hi t).isFinite = true) :
    hi.isFinite = true ∧ (hi - lo).isFinite = true :=
  have hwidth := (isFinite_of_mul (isFinite_of_add h).2).2
  ⟨(isFinite_of_sub hwidth).1, hwidth⟩

end Between

/-! ## Infinite operands -/

section Infinite

variable {x y : Float}

/-- Numbers of one sign have a finite difference. -/
theorem isFinite_sub_of_nonneg (hx : x.isFinite = true) (hy : y.isFinite = true)
    (hx0 : 0 ≤ value x) (hy0 : 0 ≤ value y) : (x - y).isFinite = true := by
  have hx' := abs_le.mp (abs_value_le hx)
  have hy' := abs_le.mp (abs_value_le hy)
  have hstep := halfStep_pos
  refine ((delivers_sub hx hy).of_abs_lt (abs_lt.mpr ⟨?_, ?_⟩)).1 <;> linarith

/-- Numbers that compare and are not infinite are finite. -/
theorem isFinite_of_le (h : x ≤ y) (hx : x.isInf = false) (hy : y.isInf = false) :
    x.isFinite = true ∧ y.isFinite = true := by
  rw [le_iff_compare] at h
  rw [isInf_eq] at hx hy
  rw [isFinite_eq, isFinite_eq]
  cases hu : unpacked x with
  | notANumber => rw [hu] at h; cases h
  | infinity s => rw [hu] at hx; cases hx
  | _ =>
      refine ⟨rfl, ?_⟩
      cases hv : unpacked y with
      | notANumber => rw [hv, compare_notANumber] at h; cases h
      | infinity s => rw [hv] at hy; cases hy
      | _ => rfl

theorem unpacked_two_mul (h : unpacked x = .infinity .positive) :
    unpacked (2 * x) = .infinity .positive := by
  have hmul : unpacked (2 * x) = unpack .binary64 (pack .binary64
      (UnpackedFloat.mul .binary64 (unpacked 2) (unpacked x))) := rfl
  rw [hmul, h]
  rfl

theorem Canonical.sub_infinity {u : UnpackedFloat} (h : Canonical u) :
    UnpackedFloat.sub .binary64 u (.infinity .positive) = .infinity .negative := by
  rw [sub_eq_add]
  cases h <;> rfl

theorem unpacked_sub_infinity (hx : x.isFinite = true) (h : unpacked y = .infinity .positive) :
    unpacked (x - y) = .infinity .negative := by
  have hsub : unpacked (x - y) = unpack .binary64 (pack .binary64
      (UnpackedFloat.sub .binary64 (unpacked x) (unpacked y))) := rfl
  rw [hsub, h, (canonical_of_isFinite hx).1.sub_infinity]
  rfl

/-- Nothing lies above one infinity and below the other. -/
theorem not_le_of_infinite {z : Float} (hx : unpacked x = .infinity .positive)
    (hy : unpacked y = .infinity .negative) (hxz : x ≤ z) : ¬ z ≤ y := by
  rw [le_iff_compare, hx] at hxz
  rw [le_iff_compare, hy]
  cases hz : unpacked z with
  | infinity s =>
      cases s with
      | positive => decide
      | negative => rw [hz] at hxz; exact absurd hxz (by decide)
  | _ => rw [hz] at hxz; exact absurd hxz Bool.false_ne_true

theorem scalar_zero_eq : (Scalar.zero : Float) = 0 := by decide +kernel

theorem scalar_two_eq : (Scalar.ofInt 2 : Float) = 2 := by decide +kernel

/-- What is tested to be positive is a positive number or infinite. -/
theorem cases_of_pos (h : Scalar.zero < x) :
    (x.isFinite = true ∧ 0 < value x) ∨ unpacked x = .infinity .positive := by
  rw [scalar_zero_eq] at h
  refine (cases_of_lt (by decide) h).imp_left fun hx => ⟨hx, ?_⟩
  rw [← value_zero]
  exact (lt_iff_value (by decide) hx).mp h

theorem value_two : value 2 = 2 := by
  have htwo : unpacked 2 = .finite .positive (2 ^ 52) (-51) (by norm_num) := rfl
  rw [value, htwo]
  norm_num [exactValue, Float.Model.UnpackedFloat.Sign.apply]

/-- The double of a positive number is finite and exact if anything lies above it. -/
theorem value_two_mul (hx : x.isFinite = true) (hx0 : 0 ≤ value x) (h : 2 * x < y) :
    (2 * x).isFinite = true ∧ value (2 * x) = 2 * value x := by
  have hdelivers : Delivers (2 * value x) (2 * x) := value_two ▸ delivers_mul (by decide) hx
  cases hdelivers with
  | finite hfinite hnearest =>
      exact ⟨hfinite, hnearest.eq_of_representable (representable_value hx).two_mul⟩
  | above _ hinf => exact absurd h (not_lt_of_infinite hinf)
  | below hle _ => linarith [limit_eq, halfStep_pos]

end Infinite

end Binary64

open Binary64

/-! ## Finite fields -/

/-- Both sides are finite. -/
def Domain.IsFinite (d : Domain Float) : Prop := ∀ a, (d.extent a).isFinite = true

/-- Radius, position and velocity are finite. -/
structure Ball.IsFinite (b : Ball Float) : Prop where
  radius : b.radius.isFinite = true
  pos : ∀ a, (b.along a).pos.isFinite = true
  vel : ∀ a, (b.along a).vel.isFinite = true

/-- The domain and all balls are finite. -/
structure Field.IsFinite (f : Field Float) : Prop where
  domain : f.domain.IsFinite
  balls : ∀ b ∈ f.balls, b.IsFinite

/-! ## Usable bounds -/

namespace Params

variable {p : Params Float}

theorem Usable.radii (h : p.Usable) : p.radiusMin.isFinite = true ∧ p.radiusMax.isFinite = true
    ∧ 0 < value p.radiusMin ∧ value p.radiusMin < value p.radiusMax := by
  obtain ⟨hmin, hmin0⟩ := (cases_of_pos h.radiusMin).resolve_right fun hinf =>
    not_lt_of_infinite hinf h.radiusMax
  have hmax : p.radiusMax.isFinite = true :=
    (cases_of_lt hmin h.radiusMax).resolve_right fun hinf =>
      not_lt_of_infinite (unpacked_two_mul hinf) (scalar_two_eq ▸ h.room .horizontal)
  exact ⟨hmin, hmax, hmin0, (lt_iff_value hmin hmax).mp h.radiusMax⟩

/-- Twice the greatest radius is less than each side that is finite. -/
theorem Usable.two_mul_lt (h : p.Usable) (a : Axis) (ha : (p.domain.extent a).isFinite = true) :
    2 * value p.radiusMax < value (p.domain.extent a) := by
  have hroom : 2 * p.radiusMax < p.domain.extent a := scalar_two_eq ▸ h.room a
  obtain ⟨-, hmax, hmin0, hminmax⟩ := h.radii
  obtain ⟨hdouble, hvalue⟩ := value_two_mul hmax (hmin0.trans hminmax).le hroom
  rw [← hvalue]
  exact (lt_iff_value hdouble ha).mp hroom

theorem Usable.speeds (h : p.Usable) : p.speedMin.isFinite = true ∧ p.speedMax.isFinite = true :=
  isFinite_of_le h.speed h.speedMin h.speedMax

/-- A radius between the bounds is finite, and between the least and twice the greatest. -/
theorem Usable.radius {t : Float} (h : p.Usable) (ht : IsFraction t) :
    (between p.radiusMin p.radiusMax t).isFinite = true
      ∧ 0 ≤ value (between p.radiusMin p.radiusMax t)
      ∧ value (between p.radiusMin p.radiusMax t) ≤ 2 * value p.radiusMax := by
  obtain ⟨hmin, hmax, hmin0, hminmax⟩ := h.radii
  have hwidth : (p.radiusMax - p.radiusMin).isFinite = true :=
    isFinite_sub_of_nonneg hmax hmin (hmin0.trans hminmax).le hmin0.le
  have hfinite := isFinite_between hmin hmax hwidth ht (.inl hmin0.le)
  have hd := (delivers_sub hmax hmin).nearest hwidth
  have hd0 : 0 ≤ value (p.radiusMax - p.radiusMin) :=
    hd.ge_of_ge representable_zero (by linarith)
  have hdmax : value (p.radiusMax - p.radiusMin) ≤ value p.radiusMax :=
    hd.le_of_le (representable_value hmax) (by linarith)
  obtain ⟨hge, hle⟩ := value_between hmin hwidth ht hd0 hfinite
  exact ⟨hfinite, hmin0.le.trans hge, hle _ (representable_value hmax).two_mul (by linarith)⟩

/-- Along a side a position is finite if and only if the side is. -/
theorem Usable.isFinite_pos_iff {r t : Float} (h : p.Usable) (a : Axis) (hr : r.isFinite = true)
    (hr0 : 0 ≤ value r) (hrmax : value r ≤ 2 * value p.radiusMax) (ht : IsFraction t) :
    (between r (p.domain.extent a - r) t).isFinite = true
      ↔ (p.domain.extent a).isFinite = true := by
  constructor
  · intro hpos
    exact (isFinite_of_sub (isFinite_of_isFinite_between hpos).1).1
  · intro hside
    have hroom := h.two_mul_lt a hside
    have hupper := isFinite_sub_of_nonneg hside hr (by linarith) hr0
    have hupper0 : 0 ≤ value (p.domain.extent a - r) :=
      ((delivers_sub hside hr).nearest hupper).ge_of_ge representable_zero (by linarith)
    exact isFinite_between hr hupper (isFinite_sub_of_nonneg hupper hr hupper0 hr0) ht (.inl hr0)

/-- A velocity is finite if and only if the speed range is finitely wide. -/
theorem Usable.isFinite_vel_iff {t : Float} (h : p.Usable) (ht : IsFraction t) :
    (between p.speedMin p.speedMax t).isFinite = true
      ↔ (p.speedMax - p.speedMin).isFinite = true := by
  constructor
  · intro hvel
    exact (isFinite_of_isFinite_between hvel).2
  · intro hwidth
    obtain ⟨hmin, hmax⟩ := h.speeds
    have hle := (le_iff_value hmin hmax).mp h.speed
    have hd0 : 0 ≤ value (p.speedMax - p.speedMin) :=
      ((delivers_sub hmax hmin).nearest hwidth).ge_of_ge representable_zero (by linarith)
    exact isFinite_between hmin hmax hwidth ht (.inr hd0)

end Params

namespace Field

variable {σ : Type}

/-! ## Fields drawn at random -/

section Drawn

variable (src : Source σ Float) (p : Params Float) (s : σ) (i : Nat)

theorem radius_drawnBall : ∃ s', (drawnBall src p s i).radius
    = between p.radiusMin p.radiusMax (src.fraction s').1 :=
  ⟨_, rfl⟩

theorem pos_drawnBall (a : Axis) : ∃ s', ((drawnBall src p s i).along a).pos
    = between (drawnBall src p s i).radius
      (p.domain.extent a - (drawnBall src p s i).radius) (src.fraction s').1 := by
  cases a with
  | horizontal => exact ⟨_, rfl⟩
  | vertical => exact ⟨_, rfl⟩

theorem vel_drawnBall (a : Axis) : ∃ s', ((drawnBall src p s i).along a).vel
    = between p.speedMin p.speedMax (src.fraction s').1 := by
  cases a with
  | horizontal => exact ⟨_, rfl⟩
  | vertical => exact ⟨_, rfl⟩

end Drawn

variable {src : Source σ Float} {p : Params Float}

/-- What is finite in a drawn ball: the radius always, a position if the side is, and a velocity if
the speed range is finitely wide. -/
structure AsFiniteAs (p : Params Float) (b : Ball Float) : Prop where
  radius : b.radius.isFinite = true
  pos : ∀ a, (b.along a).pos.isFinite = true ↔ (p.domain.extent a).isFinite = true
  vel : ∀ a, (b.along a).vel.isFinite = true ↔ (p.speedMax - p.speedMin).isFinite = true

theorem asFiniteAs_drawnBall (hsrc : ∀ s, IsFraction (src.fraction s).1) (hp : p.Usable) (s : σ)
    (i : Nat) : AsFiniteAs p (drawnBall src p s i) := by
  obtain ⟨s₀, hradius⟩ := radius_drawnBall src p s i
  obtain ⟨hr, hr0, hrmax⟩ := hp.radius (hsrc s₀)
  rw [← hradius] at hr hr0 hrmax
  refine ⟨hr, fun a => ?_, fun a => ?_⟩
  · obtain ⟨s₁, hpos⟩ := pos_drawnBall src p s i a
    rw [hpos]
    exact hp.isFinite_pos_iff a hr hr0 hrmax (hsrc s₁)
  · obtain ⟨s₁, hvel⟩ := vel_drawnBall src p s i a
    rw [hvel]
    exact hp.isFinite_vel_iff (hsrc s₁)

/-- A field that could be drawn has usable bounds and consists of its drawn balls. -/
theorem eq_of_sample_eq_ok {s s' : σ} {f : Field Float} (h : sample src p s = .ok (f, s')) :
    p.Usable ∧ f = ⟨p.domain, (List.range p.count.toNat).map (drawnBall src p s), 0⟩ := by
  have hp := usable_of_sample h
  rw [sample_of_usable src hp] at h
  exact ⟨hp, (congrArg Prod.fst (Except.ok.inj h)).symm⟩

theorem asFiniteAs_of_sample (hsrc : ∀ s, IsFraction (src.fraction s).1) {s s' : σ}
    {f : Field Float} (h : sample src p s = .ok (f, s')) :
    f.domain = p.domain ∧ ∀ b ∈ f.balls, AsFiniteAs p b := by
  obtain ⟨hp, rfl⟩ := eq_of_sample_eq_ok h
  refine ⟨rfl, fun b hb => ?_⟩
  obtain ⟨i, -, rfl⟩ := List.mem_map.mp hb
  exact asFiniteAs_drawnBall hsrc hp s i

/-- A field of drawn balls is finite if its domain is, and the speed range of what it holds. -/
theorem isFinite_iff_of_asFiniteAs {f : Field Float} (hdomain : f.domain = p.domain)
    (hballs : ∀ b ∈ f.balls, AsFiniteAs p b) :
    f.IsFinite ↔
      p.domain.IsFinite ∧ (f.balls = [] ∨ (p.speedMax - p.speedMin).isFinite = true) := by
  constructor
  · intro hf
    refine ⟨hdomain ▸ hf.domain, ?_⟩
    rcases List.eq_nil_or_concat f.balls with hnil | ⟨rest, b, hb⟩
    · exact .inl hnil
    · have hmem : b ∈ f.balls := by simp [hb]
      exact .inr (((hballs b hmem).vel .horizontal).mp ((hf.balls b hmem).vel .horizontal))
  · rintro ⟨hd, hspeed⟩
    refine ⟨hdomain ▸ hd, fun b hb => ⟨(hballs b hb).radius, fun a => ?_, fun a => ?_⟩⟩
    · exact ((hballs b hb).pos a).mpr (hd a)
    · have hne : f.balls ≠ [] := List.ne_nil_of_mem hb
      exact ((hballs b hb).vel a).mpr (hspeed.resolve_left hne)

/-! ## Fields built by hand -/

theorem exists_mem_numberedFrom (i : Nat) {balls : List (Ball Float)} {b : Ball Float}
    (h : b ∈ balls) : ∃ k : Int, { b with id := k } ∈ numberedFrom i balls := by
  obtain ⟨j, hj, rfl⟩ := List.mem_iff_getElem.mp h
  exact ⟨((i + j : Nat) : Int), List.mem_mapIdx.mpr ⟨j, hj, rfl⟩⟩

/-- The sides of a domain for balls placed by hand are finite and positive. -/
theorem isFinite_of_domainFits {d : Domain Float} (h : domainFits d = true) (a : Axis) :
    (d.extent a).isFinite = true ∧ 0 < value (d.extent a) := by
  simp only [domainFits, Bool.and_eq_true, decide_eq_true_eq, Bool.not_eq_true'] at h
  obtain ⟨⟨⟨hwidth, hheight⟩, hwidth'⟩, hheight'⟩ := h
  have hside : ∀ x : Float, Scalar.zero < x → x.isInf = false →
      x.isFinite = true ∧ 0 < value x := by
    intro x hx hinf
    refine (cases_of_pos hx).resolve_right fun hu => ?_
    rw [isInf_eq, hu] at hinf
    cases hinf
  cases a with
  | horizontal => exact hside d.width hwidth hwidth'
  | vertical => exact hside d.height hheight hheight'

theorem along_of_inside {d : Domain Float} {b : Ball Float} (h : b.inside d = true) (a : Axis) :
    b.radius ≤ (b.along a).pos ∧ (b.along a).pos ≤ d.extent a - b.radius := by
  obtain ⟨hx, hx', hy, hy'⟩ := of_decide_eq_true h
  cases a with
  | horizontal => exact ⟨hx, hx'⟩
  | vertical => exact ⟨hy, hy'⟩

/-- A ball that lies in a domain has a finite radius and a finite position. -/
theorem isFinite_of_fits {d : Domain Float} {b : Ball Float} (hd : domainFits d = true)
    (h : Fits d b) : b.radius.isFinite = true ∧ ∀ a, (b.along a).pos.isFinite = true := by
  -- An infinite radius puts the upper bound of the position at minus infinity.
  obtain ⟨hr, hr0⟩ := (cases_of_pos h.1).resolve_right fun hinf => by
    obtain ⟨hlower, hupper⟩ := along_of_inside h.2 .horizontal
    exact not_le_of_infinite hinf
      (unpacked_sub_infinity (isFinite_of_domainFits hd .horizontal).1 hinf) hlower hupper
  refine ⟨hr, fun a => ?_⟩
  obtain ⟨hlower, hupper⟩ := along_of_inside h.2 a
  obtain ⟨hside, hside0⟩ := isFinite_of_domainFits hd a
  exact isFinite_of_between hr (isFinite_sub_of_nonneg hside hr hside0.le hr0.le) hlower hupper

/-- What is finite in a field of balls placed by hand, whatever their velocities. -/
theorem isFinite_of_ofBalls {d : Domain Float} {balls : List (Ball Float)} {f : Field Float}
    (h : ofBalls d balls = .ok f) :
    f.domain = d ∧ d.IsFinite
      ∧ ∀ b ∈ f.balls, b.radius.isFinite = true ∧ ∀ a, (b.along a).pos.isFinite = true := by
  obtain ⟨hd, hfits, rfl⟩ := ofBalls_eq_ok.mp h
  refine ⟨rfl, fun a => (isFinite_of_domainFits hd a).1, fun b hb => ?_⟩
  obtain ⟨c, hc, k, rfl⟩ := mem_numberedFrom hb
  exact isFinite_of_fits hd (hfits c hc)

theorem isFinite_iff_of_ofBalls {d : Domain Float} {balls : List (Ball Float)} {f : Field Float}
    (h : ofBalls d balls = .ok f) :
    f.IsFinite ↔ ∀ b ∈ balls, ∀ a, (b.along a).vel.isFinite = true := by
  obtain ⟨hdomain, hd, hplaced⟩ := isFinite_of_ofBalls h
  obtain ⟨-, -, rfl⟩ := ofBalls_eq_ok.mp h
  constructor
  · intro hf b hb a
    obtain ⟨k, hk⟩ := exists_mem_numberedFrom 0 hb
    exact (hf.balls _ hk).vel a
  · intro hvel
    refine ⟨hdomain ▸ hd, fun b hb => ⟨(hplaced b hb).1, (hplaced b hb).2, ?_⟩⟩
    obtain ⟨c, hc, k, rfl⟩ := mem_numberedFrom hb
    exact hvel c hc

/-! ## Which fields are finite -/

/-- **Which fields that can be built are finite.** A source whose fractions lie from zero up to, and
without, one draws finite radii only; a position is finite if and only if the side is, and a
velocity if and only if the greatest speed less the least one is. So the whole field is finite if
and only if its domain is and, unless it holds no ball, the speed range is finitely wide. Balls
placed by hand have a finite domain, finite radii and finite positions, and the field is finite if
and only if the given velocities are. -/
theorem built_field_isFinite_iff (f : Field Float) :
    (∀ (σ : Type) (src : Source σ Float), (∀ s, IsFraction (src.fraction s).1) →
      ∀ (p : Params Float) (s s' : σ), sample src p s = .ok (f, s') →
        f.domain = p.domain
        ∧ (∀ b ∈ f.balls, b.radius.isFinite = true ∧ ∀ a,
            ((b.along a).pos.isFinite = true ↔ (p.domain.extent a).isFinite = true)
            ∧ ((b.along a).vel.isFinite = true ↔ (p.speedMax - p.speedMin).isFinite = true))
        ∧ (f.IsFinite ↔
            p.domain.IsFinite ∧ (f.balls = [] ∨ (p.speedMax - p.speedMin).isFinite = true)))
    ∧ ∀ (d : Domain Float) (balls : List (Ball Float)), ofBalls d balls = .ok f →
        f.domain = d ∧ d.IsFinite
        ∧ (∀ b ∈ f.balls, b.radius.isFinite = true ∧ ∀ a, (b.along a).pos.isFinite = true)
        ∧ (f.IsFinite ↔ ∀ b ∈ balls, ∀ a, (b.along a).vel.isFinite = true) := by
  refine ⟨fun σ src hsrc p s s' h => ?_, fun d balls h => ?_⟩
  · obtain ⟨hdomain, hballs⟩ := asFiniteAs_of_sample hsrc h
    refine ⟨hdomain, fun b hb => ?_, isFinite_iff_of_asFiniteAs hdomain hballs⟩
    exact ⟨(hballs b hb).radius, fun a => ⟨(hballs b hb).pos a, (hballs b hb).vel a⟩⟩
  · obtain ⟨hdomain, hd, hplaced⟩ := isFinite_of_ofBalls h
    exact ⟨hdomain, hd, hplaced, isFinite_iff_of_ofBalls h⟩

/-- A source that gives the same fraction and the same integer over and over. -/
def steady : Source Unit Float where
  fraction s := (0.5, s)
  below _ s := (7, s)

/-- Bounds for one ball in a box of 10 by 12. -/
def singleBounds : Params Float :=
  { domain := ⟨10, 12⟩, count := 1, radiusMin := 1, radiusMax := 2, speedMin := -1, speedMax := 1 }

/-- A ball at rest in the same box. -/
def singleBall : Ball Float :=
  { id := 0, x := ⟨5, 0⟩, y := ⟨5, 0⟩, radius := 1, color := Color.white }

/-- Bounds that build a finite field, and a ball that does. -/
theorem built_field_isFinite_single :
    (∀ s, IsFraction (steady.fraction s).1)
    ∧ (∃ f, sample steady singleBounds () = .ok (f, ()) ∧ f.IsFinite)
    ∧ ∃ f, ofBalls ⟨10, 12⟩ [singleBall] = .ok f ∧ f.IsFinite := by
  have hsteady : ∀ s, IsFraction (steady.fraction s).1 := by
    intro s
    exact (by decide +kernel : IsFraction 0.5)
  have hbounds : singleBounds.fault? = none := by decide +kernel
  have hsample := sample_eq_ok steady hbounds 1 ()
  have hdomain : singleBounds.domain.IsFinite := fun a => by cases a <;> decide +kernel
  have hfits : ∀ b ∈ [singleBall], Fits ⟨10, 12⟩ b := by
    intro b hb
    rw [List.mem_singleton.mp hb]
    exact ⟨by decide +kernel, by decide +kernel⟩
  have hplaced := ofBalls_eq_ok.mpr
    ⟨(by decide +kernel : domainFits (⟨10, 12⟩ : Domain Float) = true), hfits, rfl⟩
  refine ⟨hsteady, ⟨_, hsample, ?_⟩, ⟨_, hplaced, ?_⟩⟩
  · have hiff := (built_field_isFinite_iff _).1 Unit steady hsteady singleBounds () () hsample
    exact hiff.2.2.mpr ⟨hdomain, .inr (by decide +kernel)⟩
  · have hiff := (built_field_isFinite_iff _).2 _ _ hplaced
    refine hiff.2.2.2.mpr fun b hb a => ?_
    rw [List.mem_singleton.mp hb]
    cases a <;> decide +kernel

/-- A number too large to be finite. -/
def infinity : Float := 1e308 * 10

/-- Bounds for one ball in an infinitely wide domain. -/
def endlessBounds : Params Float := { singleBounds with domain := ⟨infinity, 12⟩ }

/-- Bounds whose speeds are finite and too far apart for their difference to be. -/
def fastBounds : Params Float := { singleBounds with speedMin := -1e308, speedMax := 1.5e308 }

/-- A ball whose velocity is no number. -/
def strayBall : Ball Float := { singleBall with x := ⟨5, infinity - infinity⟩ }

/-- **Not all that is built is finite**, neither at random nor by hand. -/
theorem unbounded_field_built :
    (∃ f, sample steady endlessBounds () = .ok (f, ()) ∧ ¬ f.IsFinite)
    ∧ (∃ f, sample steady fastBounds () = .ok (f, ()) ∧ ¬ f.IsFinite)
    ∧ ∃ f, ofBalls ⟨10, 12⟩ [strayBall] = .ok f ∧ ¬ f.IsFinite := by
  have hendless : endlessBounds.fault? = none := by decide +kernel
  have hfast : fastBounds.fault? = none := by decide +kernel
  have hfits : ∀ b ∈ [strayBall], Fits ⟨10, 12⟩ b := by
    intro b hb
    rw [List.mem_singleton.mp hb]
    exact ⟨by decide +kernel, by decide +kernel⟩
  refine ⟨⟨_, sample_eq_ok steady hendless 1 (), fun h => ?_⟩,
    ⟨_, sample_eq_ok steady hfast 1 (), fun h => ?_⟩,
    ⟨_, ofBalls_eq_ok.mpr ⟨by decide +kernel, hfits, rfl⟩, fun h => ?_⟩⟩
  · exact absurd (h.domain .horizontal) (by decide +kernel)
  · exact absurd ((h.balls _ List.mem_cons_self).vel .horizontal) (by decide +kernel)
  · exact absurd ((h.balls _ List.mem_cons_self).vel .horizontal) (by decide +kernel)

end Field

end Ricochet
