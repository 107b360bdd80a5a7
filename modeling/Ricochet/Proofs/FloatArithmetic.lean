import Ricochet.Proofs.Rounding

set_option autoImplicit false

/-! # Binary64 arithmetic by values

Every finite binary64 number has a rational `value`. Sums, differences and products deliver the
exact result of the values, rounded to nearest, or an infinity if that lies beyond the greatest
number (`Delivers`, `delivers_add`, `delivers_sub`, `delivers_mul`), and finite numbers compare as
their values do (`lt_iff_value`, `le_iff_value`). With these, reasoning about binary64 numbers is
linear arithmetic over the rationals. What is infinite or no number is told apart by its comparisons
(`isFinite_of_between`, `cases_of_lt`), and a finite result has finite operands (`isFinite_of_add`).
-/

namespace Ricochet.Binary64

open Float.Model (Format UnpackedFloat)
open Float.Model.UnpackedFloat

/-! ## Packing -/

theorem exponentBias_eq : ((Format.binary64.exponentBias : ℕ) : ℤ) = 1023 := rfl

/-- Numbers with 53 bits: the first bit is not stored. -/
theorem unpack_normal (s : Sign) {e m : ℕ} (he : 0 < e) (he' : e < 2047) (hm : 2 ^ 52 ≤ m)
    (hm' : m < 2 ^ 53) :
    unpack .binary64 (packComponents .binary64 s (BitVec.ofNat 11 e) (BitVec.ofNat 52 m))
      = .finite s m (e - 1075) (by omega) := by
  have hexp : (BitVec.ofNat 11 e).toNat = e := by
    rw [BitVec.toNat_ofNat]
    omega
  have hone : BitVec.ofNat 11 e ≠ -1#11 := by
    rw [ne_eq, ← BitVec.toNat_inj, hexp]
    exact he'.ne
  have hzero : BitVec.ofNat 11 e ≠ 0#11 := by
    rw [ne_eq, ← BitVec.toNat_inj, hexp]
    exact he.ne'
  have hbits : (1#1 ++ BitVec.ofNat 52 m).toNat = m := by
    rw [BitVec.toNat_append, ← Nat.shiftLeft_add_eq_or_of_lt (BitVec.isLt _), BitVec.toNat_ofNat,
      Nat.shiftLeft_eq, BitVec.toNat_ofNat]
    omega
  simp only [unpack, unpackMantissa_packComponents, unpackExponent_packComponents,
    unpackSign_packComponents, Sign.ofBitVec_toBitVec, if_neg hone, if_neg hzero, hbits, hexp,
    exponentBias_eq]
  norm_num

/-- Numbers with fewer bits have the least exponent. -/
theorem unpack_subnormal (s : Sign) {m : ℕ} (hm : 0 < m) (hm' : m < 2 ^ 52) :
    unpack .binary64 (packComponents .binary64 s 0#11 (BitVec.ofNat 52 m))
      = .finite s m (-1074) hm := by
  have hbits : (BitVec.ofNat 52 m).toNat = m := by
    rw [BitVec.toNat_ofNat]
    omega
  have hzero : BitVec.ofNat 52 m ≠ 0#52 := by
    rw [ne_eq, ← BitVec.toNat_inj, hbits]
    exact hm.ne'
  have hone : (0#11 : BitVec 11) ≠ -1#11 := by decide
  simp only [unpack, unpackMantissa_packComponents, unpackExponent_packComponents,
    unpackSign_packComponents, Sign.ofBitVec_toBitVec, if_neg hone, dif_neg hzero, hbits,
    exponentBias_eq]
  norm_num

theorem pack_finite (s : Sign) (m : ℕ) (e : ℤ) (h : 0 < m) :
    pack .binary64 (.finite s m e h)
      = if 2047 ≤ (e + 1075).toNat then packedInfinity .binary64 s
        else if m.log2 = 52 then
          packComponents .binary64 s (BitVec.ofNat 11 (e + 1075).toNat) (BitVec.ofNat 52 m)
        else packComponents .binary64 s 0#11 (BitVec.ofNat 52 m) := by
  have hbiased : (e + ((1023 : ℕ) : ℤ) + ((52 : ℕ) : ℤ)).toNat = (e + 1075).toNat := by omega
  have hpack : pack .binary64 (.finite s m e h)
      = if 2 ^ 11 ≤ (e + ((1023 : ℕ) : ℤ) + ((52 : ℕ) : ℤ)).toNat + 1 then
          packedInfinity .binary64 s
        else if m.log2 + 1 = 53 then
          packComponents .binary64 s (BitVec.ofNat 11 (e + ((1023 : ℕ) : ℤ) + ((52 : ℕ) : ℤ)).toNat)
            (BitVec.ofNat 52 m)
        else packComponents .binary64 s 0#11 (BitVec.ofNat 52 m) := rfl
  rw [hpack, hbiased]
  congr 1
  · simp
  · congr 1
    simp

/-- A number in canonical form comes back as it was packed, if its exponent is not too large. -/
theorem unpack_pack {s : Sign} {m : ℕ} {e : ℤ} {h : 0 < m} (hc : Canonical (.finite s m e h))
    (he : e ≤ 971) : unpack .binary64 (pack .binary64 (.finite s m e h)) = .finite s m e h := by
  obtain - | ⟨_, _, _, _, hbits, hleast, hnormal⟩ := hc
  rw [pack_finite, if_neg (by omega)]
  by_cases hm : 2 ^ 52 ≤ m
  · have hlog : m.log2 = 52 := le_antisymm (log2_le_of_lt hbits) ((Nat.le_log2 h.ne').mpr hm)
    rw [if_pos hlog, unpack_normal s (by omega) (by omega) hm hbits]
    congr 1
    omega
  · have hlog : m.log2 ≠ 52 := ((Nat.log2_lt h.ne').mpr (not_le.mp hm)).ne
    obtain rfl : e = -1074 := hnormal.resolve_left hm
    rw [if_neg hlog, unpack_subnormal s h (not_le.mp hm)]

/-- With a larger exponent it becomes infinite. -/
theorem unpack_pack_overflow {s : Sign} {m : ℕ} {e : ℤ} {h : 0 < m} (he : 971 < e) :
    unpack .binary64 (pack .binary64 (.finite s m e h)) = .infinity s := by
  rw [pack_finite, if_pos (by omega)]
  cases s <;> rfl

theorem abs_exactValue (s : Sign) (m : ℕ) (e : ℤ) (h : 0 < m) :
    |exactValue (.finite s m e h)| = m * 2 ^ e := by
  cases s <;> simp [exactValue, Sign.apply]

/-- Exponents are too large exactly for numbers that reach the limit. -/
theorem Canonical.abs_lt_iff {s : Sign} {m : ℕ} {e : ℤ} {h : 0 < m}
    (hc : Canonical (.finite s m e h)) : |exactValue (.finite s m e h)| < limit ↔ e ≤ 971 := by
  obtain - | ⟨_, _, _, _, hbits, hleast, hnormal⟩ := hc
  rw [abs_exactValue]
  constructor
  · intro hlt
    by_contra hlarge
    have hm : (2 : ℚ) ^ (52 : ℤ) ≤ m := by exact_mod_cast hnormal.resolve_right (by omega)
    have hreached : limit ≤ m * 2 ^ e :=
      calc limit ≤ 2 ^ (52 + e) := zpow_le_zpow_right₀ one_le_two (by omega)
        _ = 2 ^ (52 : ℤ) * 2 ^ e := two_zpow_add 52 e
        _ ≤ m * 2 ^ e := mul_le_mul_of_nonneg_right hm (two_zpow_pos e).le
    exact absurd hlt (not_lt.mpr hreached)
  · intro hle
    have hm : (m : ℚ) < 2 ^ (53 : ℤ) := by exact_mod_cast hbits
    calc (m : ℚ) * 2 ^ e < 2 ^ (53 : ℤ) * 2 ^ e := mul_lt_mul_of_pos_right hm (two_zpow_pos e)
      _ = 2 ^ (53 + e) := (two_zpow_add 53 e).symm
      _ ≤ limit := zpow_le_zpow_right₀ one_le_two (by omega)

theorem canonical_below_limit {s : Sign} {m : ℕ} {e : ℤ} {h : 0 < m} (hbits : m < 2 ^ 53)
    (hleast : -1074 ≤ e) (hnormal : 2 ^ 52 ≤ m ∨ e = -1074) (he : e ≤ 971) :
    Canonical (.finite s m e h) ∧ |exactValue (.finite s m e h)| < limit :=
  have hc : Canonical (.finite s m e h) := .finite s m e h hbits hleast hnormal
  ⟨hc, hc.abs_lt_iff.mpr he⟩

/-- What can be read from 64 bits: no number, an infinite one, or a number in canonical form below
the limit. -/
theorem unpack_cases (b : BitVec Format.binary64.numBits) :
    unpack .binary64 b = .notANumber ∨ (∃ s, unpack .binary64 b = .infinity s)
      ∨ Canonical (unpack .binary64 b) ∧ |exactValue (unpack .binary64 b)| < limit := by
  have hfraction : (unpackMantissa b).toNat < 2 ^ 52 := (unpackMantissa b).isLt
  have hfield : (unpackExponent b).toNat < 2 ^ 11 := (unpackExponent b).isLt
  simp only [unpack]
  split
  · split
    · exact .inr (.inl ⟨_, rfl⟩)
    · exact .inl rfl
  · rename_i hspecial
    refine .inr (.inr ?_)
    have hbelow : (unpackExponent b).toNat ≠ 2047 := fun h => hspecial (BitVec.eq_of_toNat_eq h)
    split
    · rename_i hzero
      have hexp : (unpackExponent b).toNat = 0 := by
        rw [hzero]
        rfl
      split
      · exact ⟨.zero _, by simpa [exactValue] using limit_pos⟩
      · rw [hexp, exponentBias_eq]
        exact canonical_below_limit (by omega) (by norm_num) (.inr (by norm_num)) (by norm_num)
    · rename_i hnonzero
      have hexp : (unpackExponent b).toNat ≠ 0 := fun h => hnonzero (BitVec.eq_of_toNat_eq h)
      have hbits : (1#1 ++ unpackMantissa b).toNat = 2 ^ 52 + (unpackMantissa b).toNat := by
        rw [BitVec.toNat_append, ← Nat.shiftLeft_add_eq_or_of_lt (unpackMantissa b).isLt]
        rfl
      rw [exponentBias_eq]
      exact canonical_below_limit (by omega) (by omega) (.inl (by omega)) (by omega)

/-! ## Numbers and their values -/

/-- A binary64 number taken apart. -/
def unpacked (x : Float) : UnpackedFloat := x.toModel.unpack

/-- The value of a binary64 number; what is not a number, or infinite, has the value zero. -/
def value (x : Float) : ℚ := exactValue (unpacked x)

theorem isFinite_eq (x : Float) : x.isFinite = (unpacked x).isFinite := rfl

theorem isInf_eq (x : Float) : x.isInf = (unpacked x).isInf := rfl

section Finite

variable {x y : Float}

theorem canonical_of_isFinite (h : x.isFinite = true) :
    Canonical (unpacked x) ∧ |value x| < limit := by
  rcases unpack_cases x.toModel.toBits.toBitVec with hx | ⟨s, hx⟩ | hx
  · have hnan : unpacked x = .notANumber := hx
    rw [isFinite_eq, hnan] at h
    cases h
  · have hinf : unpacked x = .infinity s := hx
    rw [isFinite_eq, hinf] at h
    cases h
  · exact hx

theorem Canonical.isFinite {u : UnpackedFloat} (h : Canonical u) : u.isFinite = true := by
  cases h <;> rfl

theorem Canonical.representable {u : UnpackedFloat} (h : Canonical u) :
    Representable (exactValue u) := by
  cases h with
  | zero s => exact representable_zero
  | finite s m e h bits least normal =>
      refine ⟨s.apply m, e, ?_, least, rfl⟩
      cases s <;> simp [Sign.apply] <;> exact_mod_cast bits.le

theorem representable_value (h : x.isFinite = true) : Representable (value x) :=
  (canonical_of_isFinite h).1.representable

/-- No finite number lies above the greatest one. -/
theorem abs_value_le (h : x.isFinite = true) : |value x| ≤ limit - 2 * halfStep := by
  have hlt := abs_lt.mp (canonical_of_isFinite h).2
  have hrep := representable_value h
  refine abs_le.mpr ⟨?_, hrep.le_of_lt_limit hlt.2⟩
  have := hrep.neg.le_of_lt_limit (by linarith)
  linarith

end Finite

/-! ## Operations -/

/-- How an operation delivers its exact result `z`: as a finite number nearest to it, or as an
infinite one if it is half a step or more beyond the greatest number. -/
inductive Delivers (z : ℚ) (r : Float) : Prop where
  | finite (isFinite : r.isFinite = true) (nearest : Nearest z (value r))
  | above (beyond : limit - halfStep ≤ z) (infinite : unpacked r = .infinity .positive)
  | below (beyond : z ≤ halfStep - limit) (infinite : unpacked r = .infinity .negative)

/-- A result that is not too large is finite. -/
theorem Delivers.of_abs_lt {z : ℚ} {r : Float} (h : Delivers z r) (hz : |z| < limit - halfStep) :
    r.isFinite = true ∧ Nearest z (value r) := by
  rw [abs_lt] at hz
  cases h with
  | finite hfinite hnearest => exact ⟨hfinite, hnearest⟩
  | above hbeyond _ => linarith
  | below hbeyond _ => linarith

theorem Delivers.nearest {z : ℚ} {r : Float} (h : Delivers z r) (hr : r.isFinite = true) :
    Nearest z (value r) := by
  cases h with
  | finite _ hnearest => exact hnearest
  | above _ hinf => rw [isFinite_eq, hinf] at hr; cases hr
  | below _ hinf => rw [isFinite_eq, hinf] at hr; cases hr

theorem unpacked_pack (u : UnpackedFloat) :
    unpacked (.ofModel (Float.Model.pack u)) = unpack .binary64 (pack .binary64 u) := rfl

/-- A rounded result is delivered by packing it. -/
theorem delivers_pack {z : ℚ} {u : UnpackedFloat} (hc : Canonical u)
    (hnear : Nearest z (exactValue u)) : Delivers z (.ofModel (Float.Model.pack u)) := by
  have hsmall : |exactValue u| < limit → Delivers z (.ofModel (Float.Model.pack u)) := by
    intro hlt
    have hback : unpacked (.ofModel (Float.Model.pack u)) = u := by
      rw [unpacked_pack]
      cases hc with
      | zero s => cases s <;> rfl
      | finite s m e h bits least normal =>
          have hc : Canonical (.finite s m e h) := .finite s m e h bits least normal
          exact unpack_pack hc (hc.abs_lt_iff.mp hlt)
    refine .finite ?_ ?_
    · rw [isFinite_eq, hback]
      exact hc.isFinite
    · rw [value, hback]
      exact hnear
  by_cases hlt : |exactValue u| < limit
  · exact hsmall hlt
  · cases hc with
    | zero s => exact hsmall (by simpa [exactValue] using limit_pos)
    | finite s m e h bits least normal =>
        have hc : Canonical (.finite s m e h) := .finite s m e h bits least normal
        have hinf : unpacked (.ofModel (Float.Model.pack (.finite s m e h))) = .infinity s := by
          rw [unpacked_pack]
          exact unpack_pack_overflow (not_le.mp (mt hc.abs_lt_iff.mpr hlt))
        rw [abs_exactValue] at hlt
        cases s with
        | positive =>
            refine .above (not_lt.mp fun hz => hlt ?_) hinf
            simpa [exactValue, Sign.apply] using hnear.lt_limit hz
        | negative =>
            refine .below (not_lt.mp fun hz => hlt ?_) hinf
            have hneg := hnear.neg.lt_limit (by linarith)
            simpa [exactValue, Sign.apply] using hneg

/-! ### Addition and subtraction -/

theorem Canonical.neg {u : UnpackedFloat} (h : Canonical u) : Canonical u.neg := by
  cases h with
  | zero s => exact .zero _
  | finite s m e h bits least normal => exact .finite _ m e h bits least normal

theorem neg_apply (s : Sign) (k : ℤ) : (-s).apply k = -s.apply k := by
  cases s with
  | negative => exact (Int.neg_neg k).symm
  | positive => rfl

theorem exactValue_neg (u : UnpackedFloat) : exactValue u.neg = -exactValue u := by
  cases u with
  | finite s m e h => simp [UnpackedFloat.neg, exactValue, neg_apply]
  | _ => simp [UnpackedFloat.neg, exactValue]

/-- Mantissas brought to a common exponent. -/
theorem apply_decreaseExponent (s : Sign) (m : ℕ) {e t : ℤ} (h : t ≤ e) :
    ((s.apply (decreaseExponent m e t).1 : ℤ) : ℚ) * 2 ^ t = s.apply m * 2 ^ e := by
  have hpow : (2 : ℚ) ^ e = 2 ^ (e - t).toNat * 2 ^ t := by
    rw [← zpow_natCast, ← two_zpow_add]
    congr 1
    omega
  rw [hpow, decreaseExponent, Nat.shiftLeft_eq]
  cases s <;> simp only [Sign.apply] <;> push_cast <;> ring

theorem nearest_add {a b : UnpackedFloat} (ha : Canonical a) (hb : Canonical b) :
    Canonical (UnpackedFloat.add .binary64 a b)
      ∧ Nearest (exactValue a + exactValue b) (exactValue (UnpackedFloat.add .binary64 a b)) := by
  cases ha with
  | zero s =>
      cases hb with
      | zero t =>
          have hsum : exactValue (UnpackedFloat.add .binary64 (.zero s) (.zero t)) = 0
              ∧ Canonical (UnpackedFloat.add .binary64 (.zero s) (.zero t)) := by
            cases s <;> cases t <;> exact ⟨rfl, .zero _⟩
          refine ⟨hsum.2, ?_⟩
          rw [hsum.1]
          simpa [exactValue] using Nearest.refl representable_zero
      | finite t m e h bits least normal =>
          have hc : Canonical (.finite t m e h) := .finite t m e h bits least normal
          refine ⟨hc, ?_⟩
          have hzero : exactValue (.zero s) = 0 := rfl
          rw [hzero, zero_add]
          exact .refl hc.representable
  | finite s m e h bits least normal =>
      have hc : Canonical (.finite s m e h) := .finite s m e h bits least normal
      cases hb with
      | zero t =>
          refine ⟨hc, ?_⟩
          have hzero : exactValue (.zero t) = 0 := rfl
          rw [hzero, add_zero]
          exact .refl hc.representable
      | finite t n f h' bits' least' normal' =>
          have hsum := nearest_normalize (s.apply (decreaseExponent m e (min e f)).1
            + t.apply (decreaseExponent n f (min e f)).1) (min e f) .positive
          rw [Int.cast_add, add_mul, apply_decreaseExponent s m (min_le_left e f),
            apply_decreaseExponent t n (min_le_right e f)] at hsum
          exact hsum

theorem sub_eq_add (a b : UnpackedFloat) :
    UnpackedFloat.sub .binary64 a b = UnpackedFloat.add .binary64 a b.neg := by
  cases a with
  | finite s m e h =>
      cases b with
      | finite t n f h' =>
          simp only [UnpackedFloat.sub, UnpackedFloat.add, UnpackedFloat.neg, neg_apply,
            Int.sub_eq_add_neg]
      | _ => rfl
  | _ => cases b <;> rfl

theorem nearest_sub {a b : UnpackedFloat} (ha : Canonical a) (hb : Canonical b) :
    Canonical (UnpackedFloat.sub .binary64 a b)
      ∧ Nearest (exactValue a - exactValue b) (exactValue (UnpackedFloat.sub .binary64 a b)) := by
  have hsum := nearest_add ha hb.neg
  rwa [exactValue_neg, ← sub_eq_add, ← sub_eq_add_neg] at hsum

/-! ### Multiplication -/

theorem mul_apply (s t : Sign) (k l : ℤ) : (s * t).apply (k * l) = s.apply k * t.apply l := by
  cases s with
  | negative =>
      cases t with
      | negative => exact (neg_mul_neg k l).symm
      | positive => exact (neg_mul k l).symm
  | positive =>
      cases t with
      | negative => exact (mul_neg k l).symm
      | positive => rfl

/-- A product has bits enough to be rounded by dropping some. -/
theorem le_unitExponent_mul {m n : ℕ} {e f : ℤ} (hm : 0 < m) (hn : 0 < n)
    (he : 2 ^ 52 ≤ m ∨ e = -1074) (hf : 2 ^ 52 ≤ n ∨ f = -1074) :
    e + f ≤ unitExponent (m * n) (e + f) := by
  by_cases hlarge : 2 ^ 52 ≤ m * n
  · have hlog : 52 ≤ (m * n).log2 := (Nat.le_log2 (by positivity)).mpr hlarge
    rw [unitExponent]
    omega
  · -- Two small mantissas both have the least exponent.
    have hm' : m ≤ m * n := Nat.le_mul_of_pos_right m hn
    have hn' : n ≤ m * n := Nat.le_mul_of_pos_left n hm
    rw [unitExponent]
    omega

theorem nearest_mul {a b : UnpackedFloat} (ha : Canonical a) (hb : Canonical b) :
    Canonical (UnpackedFloat.mul .binary64 a b)
      ∧ Nearest (exactValue a * exactValue b) (exactValue (UnpackedFloat.mul .binary64 a b)) := by
  have hzero : ∀ s : Sign, Canonical (.zero s) ∧ Nearest 0 (exactValue (.zero s)) :=
    fun s => ⟨.zero s, .refl representable_zero⟩
  cases ha with
  | zero s =>
      have hleft : exactValue (.zero s) = 0 := rfl
      rw [hleft, zero_mul]
      cases hb <;> exact hzero _
  | finite s m e h bits least normal =>
      cases hb with
      | zero t =>
          have hright : exactValue (.zero t) = 0 := rfl
          rw [hright, mul_zero]
          exact hzero _
      | finite t n f h' bits' least' normal' =>
          have hproduct := nearest_roundWithAccuracy (s * t) (Nat.mul_pos h h')
            (le_unitExponent_mul h h' normal normal')
          have hexact : exactValue (.finite s m e h) * exactValue (.finite t n f h')
              = (s * t).apply (m * n : ℕ) * 2 ^ (e + f) := by
            rw [Nat.cast_mul, mul_apply, two_zpow_add]
            simp only [exactValue]
            push_cast
            ring
          rw [hexact]
          exact hproduct

/-! ### The three operations on binary64 numbers -/

section Delivered

variable {x y : Float}

theorem delivers_add (hx : x.isFinite = true) (hy : y.isFinite = true) :
    Delivers (value x + value y) (x + y) :=
  have h := nearest_add (canonical_of_isFinite hx).1 (canonical_of_isFinite hy).1
  delivers_pack h.1 h.2

theorem delivers_sub (hx : x.isFinite = true) (hy : y.isFinite = true) :
    Delivers (value x - value y) (x - y) :=
  have h := nearest_sub (canonical_of_isFinite hx).1 (canonical_of_isFinite hy).1
  delivers_pack h.1 h.2

theorem delivers_mul (hx : x.isFinite = true) (hy : y.isFinite = true) :
    Delivers (value x * value y) (x * y) :=
  have h := nearest_mul (canonical_of_isFinite hx).1 (canonical_of_isFinite hy).1
  delivers_pack h.1 h.2

theorem isFinite_of_pack {u : UnpackedFloat}
    (h : (Float.ofModel (Float.Model.pack u)).isFinite = true) : u.isFinite = true := by
  cases u with
  | notANumber => exact absurd h (by decide)
  | infinity s => cases s <;> exact absurd h (by decide)
  | zero s => rfl
  | finite s m e h => rfl

theorem isFinite_of_unpacked_add {a b : UnpackedFloat}
    (h : (UnpackedFloat.add .binary64 a b).isFinite = true) :
    a.isFinite = true ∧ b.isFinite = true := by
  cases a with
  | notANumber => exact absurd h Bool.false_ne_true
  | infinity s =>
      cases b with
      | infinity t => cases s <;> cases t <;> exact absurd h Bool.false_ne_true
      | _ => exact absurd h Bool.false_ne_true
  | _ =>
      cases b with
      | notANumber => exact absurd h Bool.false_ne_true
      | infinity t => exact absurd h Bool.false_ne_true
      | _ => exact ⟨rfl, rfl⟩

/-- An operation with what is not finite does not give a finite number. -/
theorem isFinite_of_add (h : (x + y).isFinite = true) : x.isFinite = true ∧ y.isFinite = true :=
  isFinite_of_unpacked_add (a := unpacked x) (b := unpacked y) (isFinite_of_pack h)

theorem isFinite_of_sub (h : (x - y).isFinite = true) : x.isFinite = true ∧ y.isFinite = true := by
  have hsum : (UnpackedFloat.sub .binary64 (unpacked x) (unpacked y)).isFinite = true :=
    isFinite_of_pack h
  rw [sub_eq_add] at hsum
  obtain ⟨hx, hy⟩ := isFinite_of_unpacked_add hsum
  refine ⟨hx, ?_⟩
  rw [isFinite_eq]
  cases hu : unpacked y <;> rw [hu] at hy <;> exact hy

theorem isFinite_of_unpacked_mul {a b : UnpackedFloat}
    (h : (UnpackedFloat.mul .binary64 a b).isFinite = true) :
    a.isFinite = true ∧ b.isFinite = true := by
  cases a with
  | notANumber => exact absurd h Bool.false_ne_true
  | infinity s => cases b <;> exact absurd h Bool.false_ne_true
  | _ =>
      cases b with
      | notANumber => exact absurd h Bool.false_ne_true
      | infinity t => exact absurd h Bool.false_ne_true
      | _ => exact ⟨rfl, rfl⟩

theorem isFinite_of_mul (h : (x * y).isFinite = true) : x.isFinite = true ∧ y.isFinite = true :=
  isFinite_of_unpacked_mul (a := unpacked x) (b := unpacked y) (isFinite_of_pack h)

end Delivered

/-! ## Comparisons -/

/-- A smaller exponent makes a smaller number. -/
theorem magnitude_lt {m n : ℕ} {e f : ℤ} (hm : m < 2 ^ 53) (he : -1074 ≤ e)
    (hn : 2 ^ 52 ≤ n ∨ f = -1074) (h : e < f) : (m : ℚ) * 2 ^ e < n * 2 ^ f := by
  have hm' : (m : ℚ) < 2 ^ (53 : ℤ) := by exact_mod_cast hm
  have hn' : (2 : ℚ) ^ (52 : ℤ) ≤ n := by exact_mod_cast hn.resolve_right (by omega)
  calc (m : ℚ) * 2 ^ e < 2 ^ (53 : ℤ) * 2 ^ e := mul_lt_mul_of_pos_right hm' (two_zpow_pos e)
    _ = 2 ^ (53 + e) := (two_zpow_add 53 e).symm
    _ ≤ 2 ^ (52 + f) := zpow_le_zpow_right₀ one_le_two (by omega)
    _ = 2 ^ (52 : ℤ) * 2 ^ f := two_zpow_add 52 f
    _ ≤ n * 2 ^ f := mul_le_mul_of_nonneg_right hn' (two_zpow_pos f).le

theorem compare_magnitudes {m n : ℕ} {e f : ℤ} (hm : m < 2 ^ 53) (hn : n < 2 ^ 53)
    (he : -1074 ≤ e) (hf : -1074 ≤ f) (hm' : 2 ^ 52 ≤ m ∨ e = -1074)
    (hn' : 2 ^ 52 ≤ n ∨ f = -1074) :
    (compare e f).then (compare m n) = compare ((m : ℚ) * 2 ^ e) (n * 2 ^ f) := by
  rcases lt_trichotomy e f with h | rfl | h
  · rw [compare_lt_iff_lt.mpr h, compare_lt_iff_lt.mpr (magnitude_lt hm he hn' h)]
    rfl
  · rw [compare_eq_iff_eq.mpr rfl, Ordering.eq_then]
    have hunit := two_zpow_pos e
    rcases lt_trichotomy m n with h | rfl | h
    · have hlt : (m : ℚ) * 2 ^ e < n * 2 ^ e := mul_lt_mul_of_pos_right (by exact_mod_cast h) hunit
      rw [compare_lt_iff_lt.mpr h, compare_lt_iff_lt.mpr hlt]
    · rw [compare_eq_iff_eq.mpr rfl, compare_eq_iff_eq.mpr rfl]
    · have hlt : (n : ℚ) * 2 ^ e < m * 2 ^ e := mul_lt_mul_of_pos_right (by exact_mod_cast h) hunit
      rw [compare_gt_iff_gt.mpr h, compare_gt_iff_gt.mpr hlt]
  · rw [compare_gt_iff_gt.mpr h, compare_gt_iff_gt.mpr (magnitude_lt hn hf hm' h)]
    rfl

theorem compare_neg_neg (p q : ℚ) : compare (-p) (-q) = (compare p q).swap := by
  rcases lt_trichotomy p q with h | rfl | h
  · rw [compare_lt_iff_lt.mpr h, compare_gt_iff_gt.mpr (neg_lt_neg h)]
    rfl
  · rw [compare_eq_iff_eq.mpr rfl, compare_eq_iff_eq.mpr rfl]
    rfl
  · rw [compare_gt_iff_gt.mpr h, compare_lt_iff_lt.mpr (neg_lt_neg h)]
    rfl

theorem exactValue_positive {m : ℕ} {e : ℤ} (h : 0 < m) :
    exactValue (.finite .positive m e h) = m * 2 ^ e := by
  simp [exactValue, Sign.apply]

theorem exactValue_negative {m : ℕ} {e : ℤ} (h : 0 < m) :
    exactValue (.finite .negative m e h) = -(m * 2 ^ e) := by
  simp [exactValue, Sign.apply]

theorem exactValue_pos {m : ℕ} {e : ℤ} (h : 0 < m) : 0 < exactValue (.finite .positive m e h) := by
  rw [exactValue_positive]
  exact mul_pos (by exact_mod_cast h) (two_zpow_pos e)

theorem exactValue_neg_lt {m : ℕ} {e : ℤ} (h : 0 < m) :
    exactValue (.finite .negative m e h) < 0 := by
  rw [exactValue_negative, neg_lt_zero]
  exact mul_pos (by exact_mod_cast h) (two_zpow_pos e)

/-- Canonical forms compare as their values do. -/
theorem compare_eq {a b : UnpackedFloat} (ha : Canonical a) (hb : Canonical b) :
    a.compare b = some (compare (exactValue a) (exactValue b)) := by
  cases ha with
  | zero s =>
      cases hb with
      | zero t => exact congrArg some (compare_eq_iff_eq.mpr rfl).symm
      | finite t n f h =>
          cases t with
          | positive => exact congrArg some (compare_lt_iff_lt.mpr (exactValue_pos h)).symm
          | negative => exact congrArg some (compare_gt_iff_gt.mpr (exactValue_neg_lt h)).symm
  | finite s m e h bits least normal =>
      cases hb with
      | zero t =>
          cases s with
          | positive => exact congrArg some (compare_gt_iff_gt.mpr (exactValue_pos h)).symm
          | negative => exact congrArg some (compare_lt_iff_lt.mpr (exactValue_neg_lt h)).symm
      | finite t n f h' bits' least' normal' =>
          have hmagnitudes := compare_magnitudes bits bits' least least' normal normal'
          cases s with
          | positive =>
              cases t with
              | positive =>
                  rw [exactValue_positive, exactValue_positive, ← hmagnitudes]
                  rfl
              | negative =>
                  have hlt := (exactValue_neg_lt (e := f) h').trans (exactValue_pos (e := e) h)
                  exact congrArg some (compare_gt_iff_gt.mpr hlt).symm
          | negative =>
              cases t with
              | positive =>
                  have hlt := (exactValue_neg_lt (e := e) h).trans (exactValue_pos (e := f) h')
                  exact congrArg some (compare_lt_iff_lt.mpr hlt).symm
              | negative =>
                  rw [exactValue_negative, exactValue_negative, compare_neg_neg, ← hmagnitudes]
                  rfl

section Order

variable {a b x y : Float}

theorem lt_iff_compare : x < y ↔ (unpacked x).compare (unpacked y) = some .lt := by
  have hlt : x < y ↔ decide ((unpacked x).lt (unpacked y) = true) = true := Iff.rfl
  rw [hlt, decide_eq_true_iff, UnpackedFloat.lt, beq_iff_eq]

theorem le_iff_compare : x ≤ y ↔ ((unpacked x).compare (unpacked y)).any (·.isLE) = true := by
  have hle : x ≤ y ↔ decide ((unpacked x).le (unpacked y) = true) = true := Iff.rfl
  rw [hle, decide_eq_true_iff, UnpackedFloat.le]

theorem lt_iff_value (hx : x.isFinite = true) (hy : y.isFinite = true) :
    x < y ↔ value x < value y := by
  rw [lt_iff_compare, compare_eq (canonical_of_isFinite hx).1 (canonical_of_isFinite hy).1,
    Option.some.injEq, compare_lt_iff_lt]
  rfl

theorem le_iff_value (hx : x.isFinite = true) (hy : y.isFinite = true) :
    x ≤ y ↔ value x ≤ value y := by
  rw [le_iff_compare, compare_eq (canonical_of_isFinite hx).1 (canonical_of_isFinite hy).1,
    Option.any_some, ← Ordering.ne_gt_iff_isLE]
  exact compare_le_iff_le

/-- What is no number compares with nothing. -/
theorem compare_notANumber (u : UnpackedFloat) : u.compare .notANumber = none := by
  cases u <;> rfl

theorem compare_positive_infinity {u : UnpackedFloat} (h : Canonical u) :
    UnpackedFloat.compare (.infinity .positive) u = some .gt := by
  cases h <;> rfl

theorem compare_negative_infinity {u : UnpackedFloat} (h : Canonical u) :
    u.compare (.infinity .negative) = some .gt := by
  cases h <;> rfl

/-- What has something finite on both sides is finite. -/
theorem isFinite_of_between (ha : a.isFinite = true) (hb : b.isFinite = true) (hax : a ≤ x)
    (hxb : x ≤ b) : x.isFinite = true := by
  rw [le_iff_compare] at hax hxb
  rw [isFinite_eq]
  cases hu : unpacked x with
  | notANumber =>
      rw [hu, compare_notANumber] at hax
      exact absurd hax Bool.false_ne_true
  | infinity s =>
      cases s with
      | positive =>
          rw [hu, compare_positive_infinity (canonical_of_isFinite hb).1] at hxb
          exact absurd hxb Bool.false_ne_true
      | negative =>
          rw [hu, compare_negative_infinity (canonical_of_isFinite ha).1] at hax
          exact absurd hax Bool.false_ne_true
  | zero s => rfl
  | finite s m e h => rfl

/-- What lies above something finite is finite or positive infinity. -/
theorem cases_of_lt (ha : a.isFinite = true) (h : a < x) :
    x.isFinite = true ∨ unpacked x = .infinity .positive := by
  rw [lt_iff_compare] at h
  rw [isFinite_eq]
  cases hu : unpacked x with
  | notANumber =>
      rw [hu, compare_notANumber] at h
      cases h
  | infinity s =>
      cases s with
      | positive => exact .inr rfl
      | negative =>
          rw [hu, compare_negative_infinity (canonical_of_isFinite ha).1] at h
          cases h
  | zero s => exact .inl rfl
  | finite s m e h => exact .inl rfl

/-- Nothing lies above positive infinity. -/
theorem not_lt_of_infinite (h : unpacked x = .infinity .positive) : ¬ x < y := by
  rw [lt_iff_compare, h]
  cases unpacked y with
  | infinity s => cases s <;> decide
  | _ => simp [UnpackedFloat.compare]

end Order

end Ricochet.Binary64
