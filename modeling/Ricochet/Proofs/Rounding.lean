import Mathlib
import Ricochet.Numeric.Binary64

set_option autoImplicit false

/-! # Rounding is to the nearest number

Sums and products of binary64 numbers are formed exactly, as an integer of units times a power of
two, and then rounded: bits that do not fit are shifted out, and the last of them and a mark for the
others decide whether to round up. Here this is shown to give a number nearest to the exact result.
Overflow is left out: exponents have a lower end and no upper one.

* `Representable`, `Nearest`: the numbers to choose from, and the choice. What is said about nearest
  numbers (`Nearest.le_of_le`, `Nearest.error_le`) does not depend on how ties are resolved.
* `nearest_roundWithAccuracy`: the algorithm makes such a choice.
* `nearest_normalize`: it does so for results that have to be shifted left as well.
-/

namespace Ricochet.Binary64

/-- Numbers that binary64 could hold if its exponents had no upper end: at most `2^53` units, of a
unit that is a power of two and not below `2^-1074`. -/
def Representable (q : ℚ) : Prop :=
  ∃ k e : ℤ, |k| ≤ 2 ^ 53 ∧ -1074 ≤ e ∧ q = k * 2 ^ e

/-- No representable number lies nearer to `z` than `x` does. -/
structure Nearest (z x : ℚ) : Prop where
  representable : Representable x
  le : ∀ g, Representable g → |x - z| ≤ |g - z|

/-- The power of two that the exponents of binary64 do not reach. -/
def limit : ℚ := 2 ^ (1024 : ℤ)

/-- Half the distance from one of the greatest binary64 numbers to the next. -/
def halfStep : ℚ := 2 ^ (970 : ℤ)

/-! ## Representable numbers -/

theorem two_zpow_pos (e : ℤ) : (0 : ℚ) < 2 ^ e := zpow_pos two_pos e

theorem two_zpow_add (e f : ℤ) : (2 : ℚ) ^ (e + f) = 2 ^ e * 2 ^ f := zpow_add₀ two_ne_zero e f

/-- A number of large units is a number of small ones. -/
theorem exists_smaller_units (k : ℤ) {e f : ℤ} (h : e ≤ f) :
    ∃ j : ℤ, (k : ℚ) * 2 ^ f = j * 2 ^ e := by
  refine ⟨k * 2 ^ (f - e).toNat, ?_⟩
  have hsplit : f = ((f - e).toNat : ℤ) + e := by omega
  have hpow : (2 : ℚ) ^ f = 2 ^ (f - e).toNat * 2 ^ e := by
    conv_lhs => rw [hsplit]
    rw [two_zpow_add, zpow_natCast]
  rw [hpow]
  push_cast
  ring

theorem Representable.abs_le {k e : ℤ} (hk : |k| ≤ 2 ^ 53) : |(k : ℚ) * 2 ^ e| ≤ 2 ^ (e + 53) := by
  have hk' : |(k : ℚ)| ≤ 2 ^ 53 := by exact_mod_cast hk
  rw [abs_mul, abs_of_pos (two_zpow_pos e), two_zpow_add, mul_comm]
  exact mul_le_mul_of_nonneg_left hk' (two_zpow_pos e).le

theorem Representable.neg {q : ℚ} (h : Representable q) : Representable (-q) := by
  obtain ⟨k, e, hk, he, rfl⟩ := h
  exact ⟨-k, e, by rwa [abs_neg], he, by push_cast; ring⟩

theorem representable_zero : Representable 0 := ⟨0, 0, by norm_num, by norm_num, by norm_num⟩

/-- Below `2 ^ (n + 53)` the representable numbers end one unit `2 ^ n` short of it. -/
theorem Representable.le_of_lt {x : ℚ} {n : ℤ} (hx : Representable x) (h : x < 2 ^ (n + 53)) :
    x ≤ 2 ^ (n + 53) - 2 ^ n := by
  obtain ⟨k, e, hk, -, rfl⟩ := hx
  have hn := two_zpow_pos n
  have htop : (2 : ℚ) ^ (n + 53) = 2 ^ 53 * 2 ^ n := by
    rw [two_zpow_add, mul_comm]
    norm_cast
  rcases le_or_gt n e with hne | hne
  · obtain ⟨j, hj⟩ := exists_smaller_units k hne
    rw [hj, htop] at h ⊢
    have hlt : (j : ℚ) < 2 ^ 53 := lt_of_mul_lt_mul_right h hn.le
    have hle : j ≤ 2 ^ 53 - 1 := by
      have : j < 2 ^ 53 := by exact_mod_cast hlt
      omega
    have hle' : (j : ℚ) ≤ 2 ^ 53 - 1 := by exact_mod_cast hle
    calc (j : ℚ) * 2 ^ n ≤ (2 ^ 53 - 1) * 2 ^ n := mul_le_mul_of_nonneg_right hle' hn.le
      _ = 2 ^ 53 * 2 ^ n - 2 ^ n := by ring
  · -- A smaller unit leaves room: such a number is at most half of `2 ^ (n + 53)`.
    have hsmall : (k : ℚ) * 2 ^ e ≤ 2 ^ (e + 53) := (le_abs_self _).trans (abs_le hk)
    have hexp : (2 : ℚ) ^ (e + 53) ≤ 2 ^ (n + 52) := zpow_le_zpow_right₀ one_le_two (by omega)
    have hhalf : (2 : ℚ) ^ (n + 52) = 2 ^ 52 * 2 ^ n := by
      rw [two_zpow_add, mul_comm]
      norm_cast
    rw [htop]
    linarith

theorem limit_pos : 0 < limit := two_zpow_pos 1024

theorem halfStep_pos : 0 < halfStep := two_zpow_pos 970

theorem half_limit_eq : limit / 2 = 2 ^ (1023 : ℤ) := by
  have hdouble : (2 : ℚ) ^ (1024 : ℤ) = 2 ^ (1 : ℤ) * 2 ^ (1023 : ℤ) := two_zpow_add 1 1023
  rw [limit, hdouble, zpow_one, mul_div_cancel_left₀ _ two_ne_zero]

theorem limit_eq : limit = 2 ^ 54 * halfStep := by
  have hsplit : (2 : ℚ) ^ (1024 : ℤ) = 2 ^ (54 : ℤ) * 2 ^ (970 : ℤ) := two_zpow_add 54 970
  exact hsplit

theorem step_eq : (2 : ℚ) ^ (971 : ℤ) = 2 * halfStep := by
  have hsplit : (2 : ℚ) ^ (971 : ℤ) = 2 ^ (1 : ℤ) * 2 ^ (970 : ℤ) := two_zpow_add 1 970
  rw [hsplit, zpow_one]
  rfl

/-- The greatest binary64 number. -/
theorem representable_greatest : Representable (limit - 2 * halfStep) := by
  refine ⟨2 ^ 53 - 1, 971, by norm_num, by norm_num, ?_⟩
  rw [step_eq, limit_eq]
  push_cast
  ring

theorem Representable.le_of_lt_limit {x : ℚ} (hx : Representable x) (h : x < limit) :
    x ≤ limit - 2 * halfStep := by
  have hle := hx.le_of_lt (n := 971) h
  rw [step_eq] at hle
  exact hle

/-! ## Nearest numbers -/

namespace Nearest

variable {z x g : ℚ}

theorem refl (h : Representable z) : Nearest z z :=
  ⟨h, fun g _ => by rw [sub_self, abs_zero]; exact abs_nonneg _⟩

theorem neg (h : Nearest z x) : Nearest (-z) (-x) := by
  refine ⟨h.representable.neg, fun g hg => ?_⟩
  have hle := h.le (-g) hg.neg
  have hx : |-x - -z| = |x - z| := by rw [← abs_neg]; ring_nf
  have hg' : |g - -z| = |-g - z| := by rw [← abs_neg]; ring_nf
  rwa [hx, hg']

/-- Rounding does not cross a representable number from below. -/
theorem le_of_le (h : Nearest z x) (hg : Representable g) (hz : z ≤ g) : x ≤ g := by
  by_contra hlt
  have hnear := h.le g hg
  rw [abs_of_nonneg (sub_nonneg.mpr hz), abs_of_nonneg (by linarith)] at hnear
  linarith

/-- Rounding does not cross a representable number from above. -/
theorem ge_of_ge (h : Nearest z x) (hg : Representable g) (hz : g ≤ z) : g ≤ x := by
  have hneg := h.neg.le_of_le hg.neg (neg_le_neg hz)
  linarith

/-- Up to `2^53` units the error is at most half a unit. -/
theorem error_le (h : Nearest z x) {e : ℤ} (he : -1074 ≤ e) (hz : |z| ≤ 2 ^ (e + 53)) :
    |x - z| ≤ 2 ^ e / 2 := by
  have hunit := two_zpow_pos e
  have hclose : |z / 2 ^ e - round (z / 2 ^ e)| ≤ 1 / 2 := abs_sub_round _
  have hbound : |z / 2 ^ e| ≤ ((2 ^ 53 : ℤ) : ℚ) := by
    rw [abs_div, abs_of_pos hunit, div_le_iff₀ hunit]
    calc |z| ≤ 2 ^ (e + 53) := hz
      _ = ((2 ^ 53 : ℤ) : ℚ) * 2 ^ e := by
          rw [two_zpow_add, mul_comm]
          norm_cast
  have hround : |round (z / 2 ^ e)| ≤ 2 ^ 53 := by
    rw [abs_le] at hbound hclose ⊢
    push_cast at hbound
    have hlo : -(2 ^ 53) - 1 < round (z / 2 ^ e) := by
      have : (-(2 ^ 53) - 1 : ℚ) < round (z / 2 ^ e) := by linarith
      exact_mod_cast this
    have hhi : round (z / 2 ^ e) < 2 ^ 53 + 1 := by
      have : (round (z / 2 ^ e) : ℚ) < 2 ^ 53 + 1 := by linarith
      exact_mod_cast this
    omega
  have hnear := h.le _ ⟨round (z / 2 ^ e), e, hround, he, rfl⟩
  have hscale :
      |(round (z / 2 ^ e) : ℚ) * 2 ^ e - z| = |z / 2 ^ e - round (z / 2 ^ e)| * 2 ^ e := by
    rw [← abs_of_pos hunit, ← abs_mul, ← abs_neg, abs_of_pos hunit]
    congr 1
    field_simp
    ring
  rw [hscale] at hnear
  calc |x - z| ≤ |z / 2 ^ e - round (z / 2 ^ e)| * 2 ^ e := hnear
    _ ≤ 1 / 2 * 2 ^ e := mul_le_mul_of_nonneg_right hclose hunit.le
    _ = 2 ^ e / 2 := by ring

/-- What lies less than half a step above the greatest binary64 number is rounded down to it. -/
theorem lt_limit (h : Nearest z x) (hz : z < limit - halfStep) : x < limit := by
  by_contra hge
  have hbetween : limit - 2 * halfStep < z := by
    by_contra hle
    have := h.le_of_le representable_greatest (not_lt.mp hle)
    have := halfStep_pos
    linarith
  have hnear := h.le _ representable_greatest
  rw [abs_of_nonneg (by linarith [halfStep_pos]), abs_of_neg (by linarith)] at hnear
  linarith

/-- An approximation by whole units that is off by at most half a unit is nearest, if the units are
as fine as representable numbers of that size have them. -/
theorem of_units {r e : ℤ} (he : -1074 ≤ e) (hr : |r| ≤ 2 ^ 53)
    (hclose : |r * 2 ^ e - z| ≤ 2 ^ e / 2) (hfine : e = -1074 ∨ 2 ^ (e + 52) ≤ z) :
    Nearest z (r * 2 ^ e) := by
  have hunit := two_zpow_pos e
  have hunits : ∀ j : ℤ, |r * 2 ^ e - z| ≤ |j * 2 ^ e - z| := by
    intro j
    by_cases hj : j = r
    · rw [hj]
    · have hgap : (1 : ℚ) ≤ |(j : ℚ) - r| := by
        have : 1 ≤ |j - r| := Int.one_le_abs (sub_ne_zero.mpr hj)
        exact_mod_cast this
      have hfar : 2 ^ e ≤ |(j : ℚ) * 2 ^ e - r * 2 ^ e| := by
        rw [← sub_mul, abs_mul, abs_of_pos hunit]
        exact le_mul_of_one_le_left hunit.le hgap
      have htriangle : |(j : ℚ) * 2 ^ e - r * 2 ^ e| ≤ |j * 2 ^ e - z| + |r * 2 ^ e - z| := by
        rw [abs_sub_comm (r * 2 ^ e : ℚ) z]
        exact abs_sub_le _ _ _
      linarith
  refine ⟨⟨r, e, hr, he, rfl⟩, ?_⟩
  rintro g ⟨k, f, hk, hf, rfl⟩
  rcases le_or_gt e f with hle | hlt
  · obtain ⟨j, hj⟩ := exists_smaller_units k hle
    rw [hj]
    exact hunits j
  · -- Numbers of smaller units end at or below `2 ^ (e + 52)`, which is a whole number of units.
    have hz : 2 ^ (e + 52) ≤ z := hfine.resolve_left (by omega)
    have hg : (k : ℚ) * 2 ^ f ≤ 2 ^ (e + 52) :=
      ((le_abs_self _).trans (Representable.abs_le hk)).trans
        (zpow_le_zpow_right₀ one_le_two (by omega))
    have hpower : (2 : ℚ) ^ (e + 52) = ((2 ^ 52 : ℤ) : ℚ) * 2 ^ e := by
      rw [two_zpow_add, mul_comm]
      norm_cast
    calc |r * 2 ^ e - z| ≤ |((2 ^ 52 : ℤ) : ℚ) * 2 ^ e - z| := hunits _
      _ = z - 2 ^ (e + 52) := by
          rw [← hpower, abs_sub_comm, abs_of_nonneg (sub_nonneg.mpr hz)]
      _ ≤ z - k * 2 ^ f := by linarith
      _ ≤ |k * 2 ^ f - z| := by
          rw [abs_sub_comm]
          exact le_abs_self _

end Nearest

/-! ## The algorithm

Bits that do not fit are shifted out one by one. What was shifted out is remembered in two bits. -/

section Algorithm

open Float.Model Float.Model.UnpackedFloat

/-- What is left of `m` when `n` bits have been shifted out, and how the bits shifted out compare
with half a unit. -/
structure Shifted (m n : ℕ) (em : ExtendedMantissa) : Prop where
  mantissa : em.mantissa = m / 2 ^ n
  roundBit : em.roundBit = true ↔ 2 ^ n ≤ 2 * (m % 2 ^ n)
  stickyBit : em.stickyBit = true ↔ 2 * (m % 2 ^ n) ≠ 0 ∧ 2 * (m % 2 ^ n) ≠ 2 ^ n

theorem shifted_zero (m : ℕ) : Shifted m 0 (.ofMantissaAndAccuracy m .exact) := by
  refine ⟨?_, ?_, ?_⟩
  · simp [ExtendedMantissa.ofMantissaAndAccuracy]
  · simp [ExtendedMantissa.ofMantissaAndAccuracy, Nat.mod_one]
  · simp [ExtendedMantissa.ofMantissaAndAccuracy, Nat.mod_one]

/-- One more bit. -/
theorem Shifted.shiftRightOne {m n : ℕ} {em : ExtendedMantissa} (h : Shifted m n em) :
    Shifted m (n + 1) em.shiftRightOne := by
  have hpow : 2 ^ (n + 1) = 2 * 2 ^ n := by rw [pow_succ, mul_comm]
  have hsplit : m % 2 ^ (n + 1) = m % 2 ^ n + 2 ^ n * (m / 2 ^ n % 2) := by
    rw [pow_succ, Nat.mod_mul]
  have hlt : m % 2 ^ n < 2 ^ n := Nat.mod_lt _ (Nat.two_pow_pos n)
  have hdiv : m / 2 ^ (n + 1) = m / 2 ^ n / 2 := by rw [pow_succ, Nat.div_div_eq_div_mul]
  refine ⟨?_, ?_, ?_⟩
  · rw [hdiv, ← h.mantissa]
    rfl
  · have hbit : em.shiftRightOne.roundBit = (m / 2 ^ n % 2 != 0) := by rw [← h.mantissa]; rfl
    rw [hbit, hsplit, hpow]
    rcases Nat.mod_two_eq_zero_or_one (m / 2 ^ n) with h2 | h2
    · rw [h2]
      simp
      omega
    · rw [h2]
      simp
  · have hbits : em.shiftRightOne.stickyBit = (em.roundBit || em.stickyBit) := rfl
    rw [hbits, Bool.or_eq_true, h.roundBit, h.stickyBit, hsplit, hpow]
    rcases Nat.mod_two_eq_zero_or_one (m / 2 ^ n) with h2 | h2 <;> rw [h2] <;> omega

/-- All bits at once. -/
theorem shifted_shiftRight (m n : ℕ) :
    Shifted m n (ExtendedMantissa.ofMantissaAndAccuracy m .exact >>> n) := by
  induction n with
  | zero => exact shifted_zero m
  | succ n ih => exact ih.shiftRightOne

/-- The mantissa is rounded down if at most half a unit was shifted out, and up if at least half a
unit was. -/
theorem Shifted.roundedMantissa_cases {m n : ℕ} {em : ExtendedMantissa} (h : Shifted m n em) :
    em.roundedMantissa = m / 2 ^ n ∧ 2 * (m % 2 ^ n) ≤ 2 ^ n
      ∨ em.roundedMantissa = m / 2 ^ n + 1 ∧ 2 ^ n ≤ 2 * (m % 2 ^ n) := by
  obtain ⟨q, round, sticky⟩ := em
  obtain ⟨hq, hround, hsticky⟩ := h
  simp only at hq hround hsticky
  subst hq
  cases round with
  | false =>
      have hbelow : 2 * (m % 2 ^ n) < 2 ^ n := by simpa using hround
      left
      cases sticky <;> exact ⟨rfl, hbelow.le⟩
  | true =>
      have habove : 2 ^ n ≤ 2 * (m % 2 ^ n) := by simpa using hround
      cases sticky with
      | true => exact .inr ⟨rfl, habove⟩
      | false =>
          -- Exactly half a unit: the mantissa becomes even.
          have hpos : 0 < 2 ^ n := Nat.two_pow_pos n
          have hhalf : 2 * (m % 2 ^ n) = 2 ^ n := by
            have hnone : ¬ (2 * (m % 2 ^ n) ≠ 0 ∧ 2 * (m % 2 ^ n) ≠ 2 ^ n) := by simpa using hsticky
            omega
          have heven : ExtendedMantissa.roundedMantissa ⟨m / 2 ^ n, true, false⟩
              = m / 2 ^ n + m / 2 ^ n % 2 := rfl
          rw [heven]
          omega

theorem Shifted.abs_sub_le {m n : ℕ} {em : ExtendedMantissa} (h : Shifted m n em) :
    2 * |(em.roundedMantissa : ℤ) * 2 ^ n - m| ≤ 2 ^ n := by
  have hm : ((m / 2 ^ n : ℕ) : ℤ) * 2 ^ n + (m % 2 ^ n : ℕ) = m := by
    exact_mod_cast Nat.div_add_mod' m (2 ^ n)
  have hmod : ((m % 2 ^ n : ℕ) : ℤ) < 2 ^ n := by
    exact_mod_cast Nat.mod_lt m (Nat.two_pow_pos n)
  rcases h.roundedMantissa_cases with ⟨hdown, hle⟩ | ⟨hup, hge⟩
  · have hle' : 2 * ((m % 2 ^ n : ℕ) : ℤ) ≤ 2 ^ n := by exact_mod_cast hle
    have herror : (em.roundedMantissa : ℤ) * 2 ^ n - m = -((m % 2 ^ n : ℕ) : ℤ) := by
      rw [hdown]
      linarith
    rw [herror, abs_neg, abs_of_nonneg (Int.natCast_nonneg _)]
    exact hle'
  · have hge' : 2 ^ n ≤ 2 * ((m % 2 ^ n : ℕ) : ℤ) := by exact_mod_cast hge
    have herror : (em.roundedMantissa : ℤ) * 2 ^ n - m = 2 ^ n - ((m % 2 ^ n : ℕ) : ℤ) := by
      rw [hup, Nat.cast_add, Nat.cast_one]
      linarith
    rw [herror, abs_of_nonneg (by linarith)]
    linarith

/-- What the exponent of `m * 2 ^ e` has to become. -/
def unitExponent (m : ℕ) (e : ℤ) : ℤ := max (m.log2 + 1 + e - 53) (-1074)

theorem targetExponent_eq (m : ℕ) (e : ℤ) :
    Format.binary64.targetExponent (totalExponent m e) = unitExponent m e := rfl

/-- The value of an unpacked number; what is not a number, or infinite, has the value zero. -/
def exactValue : UnpackedFloat → ℚ
  | .finite s m e _ => s.apply m * 2 ^ e
  | _ => 0

/-- Numbers that are spelled as binary64 spells them, but for the upper end of the exponents. -/
inductive Canonical : UnpackedFloat → Prop where
  | zero (s : Sign) : Canonical (.zero s)
  | finite (s : Sign) (m : ℕ) (e : ℤ) (h : 0 < m) (bits : m < 2 ^ 53) (least : -1074 ≤ e)
      (normal : 2 ^ 52 ≤ m ∨ e = -1074) : Canonical (.finite s m e h)

theorem log2_le_of_lt {r : ℕ} (hr : r < 2 ^ 53) : r.log2 ≤ 52 := by
  by_cases h0 : r = 0
  · simp [h0]
  · have := (Nat.log2_lt h0).mpr hr
    omega

/-- A mantissa that fits stays as it is. -/
theorem shiftToTargetExponent_of_lt {r : ℕ} {e : ℤ} (hr : r < 2 ^ 53) (he : -1074 ≤ e) :
    shiftToTargetExponent .binary64 r e .exact = (⟨r, false, false⟩, e) := by
  have hlog := log2_le_of_lt hr
  have hshift : (unitExponent r e - e).toNat = 0 := by
    rw [unitExponent]
    omega
  simp only [shiftToTargetExponent, targetExponent_eq, shiftToExponent, hshift, Nat.cast_zero,
    add_zero]
  rfl

/-- A mantissa that was rounded up to `2^53` loses its last bit, which is zero. -/
theorem shiftToTargetExponent_carry {e : ℤ} (he : -1074 ≤ e) :
    shiftToTargetExponent .binary64 (2 ^ 53) e .exact = (⟨2 ^ 52, false, false⟩, e + 1) := by
  have hshift : (unitExponent (2 ^ 53) e - e).toNat = 1 := by
    rw [unitExponent, Nat.log2_two_pow]
    omega
  simp only [shiftToTargetExponent, targetExponent_eq, shiftToExponent, hshift]
  rfl

/-- The first shift leaves at most 53 bits. -/
theorem shift_lt (m : ℕ) (e : ℤ) : m / 2 ^ (unitExponent m e - e).toNat < 2 ^ 53 := by
  rw [Nat.div_lt_iff_lt_mul (Nat.two_pow_pos _), ← pow_add]
  have hexp : m.log2 + 1 ≤ 53 + (unitExponent m e - e).toNat := by
    rw [unitExponent]
    omega
  exact Nat.lt_log2_self.trans_le (Nat.pow_le_pow_right two_pos hexp)

/-- And it leaves 53 bits, if it is not the least exponent that is asked for. -/
theorem le_shift {m : ℕ} {e : ℤ} (hm : 0 < m) (he : e ≤ unitExponent m e)
    (hleast : unitExponent m e ≠ -1074) : 2 ^ 52 ≤ m / 2 ^ (unitExponent m e - e).toNat := by
  rw [Nat.le_div_iff_mul_le (Nat.two_pow_pos _), ← pow_add]
  have hexp : 52 + (unitExponent m e - e).toNat ≤ m.log2 := by
    rw [unitExponent] at *
    omega
  exact (Nat.pow_le_pow_right two_pos hexp).trans (Nat.log2_self_le hm.ne')

/-- Rounding in two shifts: the second one only takes care of a carry. -/
theorem roundWithAccuracy_eq (s : Sign) {m : ℕ} {e e₁ e₂ : ℤ} {em₁ em₂ : ExtendedMantissa}
    (hfirst : shiftToTargetExponent .binary64 m e .exact = (em₁, e₁))
    (hsecond : shiftToTargetExponent .binary64 em₁.roundedMantissa e₁ .exact = (em₂, e₂)) :
    roundWithAccuracy .binary64 s m e .exact
      = if h : em₂.mantissa = 0 then .zero s
        else .finite s em₂.mantissa e₂ (Nat.pos_of_ne_zero h) := by
  unfold roundWithAccuracy
  simp only [hfirst, hsecond]

/-- Rounding gives a whole number of units that is off by at most half a unit. -/
theorem exists_units (s : Sign) {m : ℕ} {e : ℤ} (hm : 0 < m) (he : e ≤ unitExponent m e) :
    ∃ r : ℕ, r ≤ 2 ^ 53
      ∧ 2 * |(r : ℤ) * 2 ^ (unitExponent m e - e).toNat - m| ≤ 2 ^ (unitExponent m e - e).toNat
      ∧ Canonical (roundWithAccuracy .binary64 s m e .exact)
      ∧ exactValue (roundWithAccuracy .binary64 s m e .exact)
        = s.apply r * 2 ^ unitExponent m e := by
  have hshifted := shifted_shiftRight m (unitExponent m e - e).toNat
  have hexp : e + ((unitExponent m e - e).toNat : ℤ) = unitExponent m e := by omega
  have hleast : -1074 ≤ unitExponent m e := le_max_right _ _
  have hfirst : shiftToTargetExponent .binary64 m e .exact
      = (ExtendedMantissa.ofMantissaAndAccuracy m .exact >>> (unitExponent m e - e).toNat,
          unitExponent m e) := by
    simp only [shiftToTargetExponent, targetExponent_eq, shiftToExponent, hexp]
  generalize hem : ExtendedMantissa.ofMantissaAndAccuracy m .exact >>> (unitExponent m e - e).toNat
    = em at hshifted hfirst
  have hle : em.roundedMantissa ≤ 2 ^ 53 := by
    have := shift_lt m e
    rcases hshifted.roundedMantissa_cases with h | h <;> omega
  have hnormal : 2 ^ 52 ≤ em.roundedMantissa ∨ unitExponent m e = -1074 := by
    by_cases h : unitExponent m e = -1074
    · exact .inr h
    · have := le_shift hm he h
      rcases hshifted.roundedMantissa_cases with h | h <;> omega
  refine ⟨em.roundedMantissa, hle, hshifted.abs_sub_le, ?_⟩
  rcases hle.lt_or_eq with hlt | heq
  · rw [roundWithAccuracy_eq s hfirst (shiftToTargetExponent_of_lt hlt hleast)]
    by_cases h0 : em.roundedMantissa = 0
    · rw [dif_pos h0, h0]
      refine ⟨.zero s, ?_⟩
      cases s <;> simp [exactValue, Sign.apply]
    · rw [dif_neg h0]
      exact ⟨.finite _ _ _ _ hlt hleast hnormal, rfl⟩
  · have hcarry := shiftToTargetExponent_carry hleast
    rw [← heq] at hcarry
    rw [roundWithAccuracy_eq s hfirst hcarry, dif_neg (by norm_num), heq]
    refine ⟨.finite _ _ _ _ (by norm_num) (by omega) (.inl le_rfl), ?_⟩
    have hunit : (2 : ℚ) ^ (unitExponent m e + 1) = 2 * 2 ^ unitExponent m e := by
      rw [two_zpow_add, mul_comm, zpow_one]
    cases s <;> simp only [exactValue, Sign.apply, hunit] <;> push_cast <;> ring

theorem apply_mul_nearest {s : Sign} {m r : ℕ} {e f : ℤ} (h : Nearest (m * 2 ^ e) (r * 2 ^ f)) :
    Nearest (s.apply m * 2 ^ e) (s.apply r * 2 ^ f) := by
  cases s with
  | positive => simpa [Sign.apply] using h
  | negative => simpa [Sign.apply] using h.neg

/-- **Rounding.** The result is spelled as binary64 spells it, and no representable number is nearer
to the number that was rounded. -/
theorem nearest_roundWithAccuracy (s : Sign) {m : ℕ} {e : ℤ} (hm : 0 < m)
    (he : e ≤ unitExponent m e) :
    Canonical (roundWithAccuracy .binary64 s m e .exact)
      ∧ Nearest (s.apply m * 2 ^ e) (exactValue (roundWithAccuracy .binary64 s m e .exact)) := by
  obtain ⟨r, hr, hclose, hcanonical, hvalue⟩ := exists_units s hm he
  refine ⟨hcanonical, ?_⟩
  rw [hvalue]
  apply apply_mul_nearest
  have hunit : (2 : ℚ) ^ unitExponent m e = 2 ^ (unitExponent m e - e).toNat * 2 ^ e := by
    rw [← zpow_natCast, ← two_zpow_add]
    congr 1
    omega
  have hnear := Nearest.of_units (z := m * 2 ^ e) (r := r) (e := unitExponent m e)
    (le_max_right _ _) (by rw [abs_of_nonneg (by positivity)]; exact_mod_cast hr) ?_ ?_
  · exact_mod_cast hnear
  · have hcast : 2 * |(r : ℚ) * 2 ^ (unitExponent m e - e).toNat - m|
        ≤ 2 ^ (unitExponent m e - e).toNat := by exact_mod_cast hclose
    have hscaled : ((r : ℤ) : ℚ) * 2 ^ unitExponent m e - m * 2 ^ e
        = (r * 2 ^ (unitExponent m e - e).toNat - m) * 2 ^ e := by
      rw [hunit]
      push_cast
      ring
    rw [hscaled, abs_mul, abs_of_pos (two_zpow_pos e), hunit]
    nlinarith [two_zpow_pos e]
  · by_cases hleast : unitExponent m e = -1074
    · exact .inl hleast
    · right
      have hexp : unitExponent m e + 52 = m.log2 + e := by
        rw [unitExponent] at *
        omega
      have hlog : ((2 ^ m.log2 : ℕ) : ℚ) ≤ m := by exact_mod_cast Nat.log2_self_le hm.ne'
      rw [hexp, two_zpow_add, zpow_natCast]
      push_cast at hlog
      exact mul_le_mul_of_nonneg_right hlog (two_zpow_pos e).le

theorem log2_shiftLeft {m : ℕ} (hm : 0 < m) (n : ℕ) : (m <<< n).log2 = m.log2 + n := by
  induction n with
  | zero => rfl
  | succ n ih =>
      have hne : m <<< n ≠ 0 := by
        rw [Nat.shiftLeft_eq]
        positivity
      rw [Nat.shiftLeft_succ, Nat.log2_two_mul hne, ih, Nat.add_assoc]

/-- Rounding of a number whose exponent may be too large. -/
theorem nearest_round (s : Sign) {m : ℕ} (e : ℤ) (hm : 0 < m) :
    Canonical (UnpackedFloat.round .binary64 s m e)
      ∧ Nearest (s.apply m * 2 ^ e) (exactValue (UnpackedFloat.round .binary64 s m e)) := by
  have hround : UnpackedFloat.round .binary64 s m e
      = roundWithAccuracy .binary64 s (m <<< (e - unitExponent m e).toNat)
          (e - (e - unitExponent m e).toNat) .exact := rfl
  rw [hround]
  generalize hn : (e - unitExponent m e).toNat = n
  have hm' : 0 < m <<< n := by rw [Nat.shiftLeft_eq]; positivity
  have hlog : (m <<< n).log2 = m.log2 + n := log2_shiftLeft hm n
  have hsame : unitExponent (m <<< n) (e - n) = unitExponent m e := by
    rw [unitExponent, unitExponent, hlog]
    push_cast
    congr 1
    ring
  have hexact : ((s.apply (m <<< n : ℕ) : ℤ) : ℚ) * 2 ^ (e - n) = s.apply m * 2 ^ e := by
    have hpow : (2 : ℚ) ^ e = 2 ^ n * 2 ^ (e - n) := by
      rw [← zpow_natCast, ← two_zpow_add]
      congr 1
      ring
    rw [hpow, Nat.shiftLeft_eq]
    cases s <;> simp only [Sign.apply] <;> push_cast <;> ring
  rw [← hexact]
  exact nearest_roundWithAccuracy s hm' (by omega)

theorem nearest_normalize (k e : ℤ) (zeroSign : Sign) :
    Canonical (UnpackedFloat.normalize .binary64 k e zeroSign)
      ∧ Nearest (k * 2 ^ e) (exactValue (UnpackedFloat.normalize .binary64 k e zeroSign)) := by
  unfold UnpackedFloat.normalize
  rcases lt_trichotomy k 0 with hk | rfl | hk
  · rw [compare_lt_iff_lt.mpr hk]
    have h := nearest_round .negative e (m := (-k).toNat) (by omega)
    have hvalue : Sign.negative.apply (-k).toNat = k := by
      simp only [Sign.apply]
      omega
    rwa [hvalue] at h
  · rw [compare_eq_iff_eq.mpr rfl]
    refine ⟨.zero _, ?_⟩
    simpa [exactValue] using Nearest.refl representable_zero
  · rw [compare_gt_iff_gt.mpr hk]
    have h := nearest_round .positive e (m := k.toNat) (by omega)
    have hvalue : Sign.positive.apply k.toNat = k := by
      simp only [Sign.apply]
      omega
    rwa [hvalue] at h

end Algorithm

end Ricochet.Binary64
