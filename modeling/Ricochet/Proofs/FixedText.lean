import Ricochet.Decimal.Fixed
import Ricochet.Proofs.FloatArithmetic

set_option autoImplicit false

/-! # Fixed-point texts

What a number is written as with some decimal places (`Decimal.IsFixed`): not-a-number and the
infinities have names, and a finite number is rounded once, to the nearest multiple of a unit in the
last place, where a number half way between two of them goes to the even one. The digits of that
multiple are split at the point, with no zeros in front and none left out behind.

* `Decimal.isFixed_iff`: this is the text that `Decimal.fixed` gives, and it is the only one.
-/

namespace Ricochet

/-! ## Patterns and values -/

namespace Binary64

open Float.Model (Format UnpackedFloat)
open Float.Model.UnpackedFloat

/-- Whether the sign of a number is a minus; a zero has a sign too. -/
def SignBit (x : Float) : Prop := 2 ^ 63 ≤ x.toBits.toNat

instance (x : Float) : Decidable (SignBit x) := inferInstanceAs (Decidable (_ ≤ _))

theorem toNat_unpackMantissa (b : BitVec Format.binary64.numBits) :
    (unpackMantissa b).toNat = b.toNat % 2 ^ 52 := by
  simp [unpackMantissa]

theorem toNat_unpackExponent (b : BitVec Format.binary64.numBits) :
    (unpackExponent b).toNat = b.toNat / 2 ^ 52 % 2 ^ 11 := by
  simp [unpackExponent, Nat.shiftRight_eq_div_pow]

section Fields

variable {b : BitVec Format.binary64.numBits}

/-- The greatest exponent field is that of the infinities and of what is not a number. -/
theorem unpack_special (hfield : b.toNat / 2 ^ 52 % 2 ^ 11 = 2047) :
    (b.toNat % 2 ^ 52 = 0 → (unpack .binary64 b).isInf = true)
      ∧ (b.toNat % 2 ^ 52 ≠ 0 → (unpack .binary64 b).isNaN = true) := by
  have hexponent : unpackExponent b = -1#11 :=
    BitVec.eq_of_toNat_eq ((toNat_unpackExponent b).trans hfield)
  have hfraction : unpackMantissa b = 0#52 ↔ b.toNat % 2 ^ 52 = 0 := by
    rw [← BitVec.toNat_inj, toNat_unpackMantissa]
    rfl
  simp only [unpack]
  rw [if_pos hexponent]
  constructor
  · intro hzero
    rw [if_pos (hfraction.mpr hzero)]
    rfl
  · intro hzero
    rw [if_neg fun h => hzero (hfraction.mp h)]
    rfl

/-- The exponent field zero is that of zero and of the numbers below the normal range. -/
theorem unpack_least (hfield : b.toNat / 2 ^ 52 % 2 ^ 11 = 0) :
    (unpack .binary64 b).isFinite = true
      ∧ |exactValue (unpack .binary64 b)| = (b.toNat % 2 ^ 52 : ℕ) * 2 ^ (-1074 : ℤ) := by
  have hexponent : unpackExponent b = 0#11 :=
    BitVec.eq_of_toNat_eq ((toNat_unpackExponent b).trans hfield)
  have hspecial : unpackExponent b ≠ -1#11 := by
    rw [hexponent]
    decide
  simp only [unpack]
  rw [if_neg hspecial, if_pos hexponent]
  split
  · rename_i hzero
    have hfraction := congrArg BitVec.toNat hzero
    rw [toNat_unpackMantissa] at hfraction
    refine ⟨rfl, ?_⟩
    rw [hfraction]
    simp [exactValue]
  · refine ⟨rfl, ?_⟩
    rw [abs_exactValue, toNat_unpackMantissa, hexponent, exponentBias_eq]
    norm_num

/-- In every other number the first bit is not stored. -/
theorem unpack_ordinary (hspecial : b.toNat / 2 ^ 52 % 2 ^ 11 ≠ 2047)
    (hleast : b.toNat / 2 ^ 52 % 2 ^ 11 ≠ 0) :
    (unpack .binary64 b).isFinite = true
      ∧ |exactValue (unpack .binary64 b)|
        = (2 ^ 52 + b.toNat % 2 ^ 52 : ℕ) * 2 ^ ((b.toNat / 2 ^ 52 % 2 ^ 11 : ℕ) - 1075 : ℤ) := by
  rw [← toNat_unpackExponent] at hspecial hleast
  have hone : unpackExponent b ≠ -1#11 := fun h => hspecial (congrArg BitVec.toNat h)
  have hzero : unpackExponent b ≠ 0#11 := fun h => hleast (congrArg BitVec.toNat h)
  have hbits : (1#1 ++ unpackMantissa b).toNat = 2 ^ 52 + b.toNat % 2 ^ 52 := by
    rw [BitVec.toNat_append, ← Nat.shiftLeft_add_eq_or_of_lt (unpackMantissa b).isLt,
      toNat_unpackMantissa]
    rfl
  simp only [unpack]
  rw [if_neg hone, if_neg hzero]
  refine ⟨rfl, ?_⟩
  rw [abs_exactValue, hbits, toNat_unpackExponent, exponentBias_eq]
  norm_num

end Fields

theorem isNaN_of_isInf {u : UnpackedFloat} (h : u.isInf = true) : u.isNaN = false := by
  cases u with
  | infinity s => rfl
  | _ => cases h

theorem isNaN_isInf_of_isFinite {u : UnpackedFloat} (h : u.isFinite = true) :
    u.isNaN = false ∧ u.isInf = false := by
  cases u with
  | zero s => exact ⟨rfl, rfl⟩
  | finite s m e hm => exact ⟨rfl, rfl⟩
  | _ => cases h

/-- What the bits of a number are read as is what it is. -/
theorem ofFloat_cases (x : Float) :
    (x.isNaN = true ∧ ofFloat x = .nan)
    ∨ (x.isNaN = false ∧ x.isInf = true ∧ ofFloat x = .infinite (decide (SignBit x)))
    ∨ (x.isNaN = false ∧ x.isInf = false
      ∧ ∃ m e, ofFloat x = .finite (decide (SignBit x)) m e ∧ |value x| = m * 2 ^ e) := by
  have hread : ofFloat x =
      if x.toBits.toNat / 2 ^ 52 % 2 ^ 11 = 2047 then
        if x.toBits.toNat % 2 ^ 52 = 0 then .infinite (decide (SignBit x)) else .nan
      else if x.toBits.toNat / 2 ^ 52 % 2 ^ 11 = 0 then
        .finite (decide (SignBit x)) (x.toBits.toNat % 2 ^ 52) (-1074)
      else
        .finite (decide (SignBit x)) (2 ^ 52 + x.toBits.toNat % 2 ^ 52)
          ((x.toBits.toNat / 2 ^ 52 % 2 ^ 11 : ℕ) - 1075 : ℤ) := rfl
  -- The exponent field tells the kinds of numbers apart, the fraction tells infinities from NaN.
  by_cases hspecial : x.toBits.toNat / 2 ^ 52 % 2 ^ 11 = 2047
  · obtain ⟨hinfinite, hnan⟩ := unpack_special (b := x.toBits.toBitVec) hspecial
    rw [if_pos hspecial] at hread
    by_cases hfraction : x.toBits.toNat % 2 ^ 52 = 0
    · have hinfinite := hinfinite hfraction
      exact .inr (.inl ⟨isNaN_of_isInf hinfinite, hinfinite, hread.trans (if_pos hfraction)⟩)
    · exact .inl ⟨hnan hfraction, hread.trans (if_neg hfraction)⟩
  · rw [if_neg hspecial] at hread
    refine .inr (.inr ?_)
    by_cases hleast : x.toBits.toNat / 2 ^ 52 % 2 ^ 11 = 0
    · obtain ⟨hfinite, hvalue⟩ := unpack_least (b := x.toBits.toBitVec) hleast
      obtain ⟨hnan, hinfinite⟩ := isNaN_isInf_of_isFinite hfinite
      exact ⟨hnan, hinfinite, _, _, hread.trans (if_pos hleast), hvalue⟩
    · obtain ⟨hfinite, hvalue⟩ := unpack_ordinary (b := x.toBits.toBitVec) hspecial hleast
      obtain ⟨hnan, hinfinite⟩ := isNaN_isInf_of_isFinite hfinite
      exact ⟨hnan, hinfinite, _, _, hread.trans (if_neg hleast), hvalue⟩

end Binary64

namespace Decimal

open Binary64

/-! ## Rounding -/

/-- Whether `n` is the natural number nearest to `q`, and the even one of two that are as near. -/
structure NearestEven (q : ℚ) (n : ℕ) : Prop where
  near : |q - n| ≤ 1 / 2
  even : |q - n| = 1 / 2 → n % 2 = 0

/-- Two nearest numbers would be neighbours with `q` half way between them, and one of two
neighbours is odd. -/
theorem NearestEven.le_of_nearest {q : ℚ} {m n : ℕ} (hm : NearestEven q m) (hn : NearestEven q n) :
    n ≤ m := by
  by_contra hle
  have hlt : m < n := not_le.mp hle
  have habove := (abs_le.mp hm.near).2
  have hbelow := (abs_le.mp hn.near).1
  have hstep : (m : ℚ) + 1 ≤ n := by exact_mod_cast hlt
  have hnext : n = m + 1 := by
    have hle : (n : ℚ) ≤ m + 1 := by linarith
    exact le_antisymm (by exact_mod_cast hle) hlt
  have hm_half : |q - m| = 1 / 2 := by
    rw [abs_of_nonneg] <;> linarith
  have hn_half : |q - n| = 1 / 2 := by
    rw [abs_of_nonpos] <;> linarith
  have hm_even := hm.even hm_half
  have hn_even := hn.even hn_half
  omega

theorem NearestEven.unique {q : ℚ} {m n : ℕ} (hm : NearestEven q m) (hn : NearestEven q n) :
    m = n := le_antisymm (hn.le_of_nearest hm) (hm.le_of_nearest hn)

/-- Whether a number is nearest to a quotient, in integers. -/
theorem nearestEven_div_iff {num den n : ℕ} (hden : 0 < den) :
    NearestEven (num / den) n ↔ 2 * |(num : ℤ) - den * n| ≤ den
      ∧ (2 * |(num : ℤ) - den * n| = den → n % 2 = 0) := by
  have hpos : (0 : ℚ) < den := by exact_mod_cast hden
  have hdist : |(num : ℚ) / den - n| = (|(num : ℤ) - den * n| : ℤ) / den := by
    have hdiff : (num : ℚ) / den - n = ((num : ℤ) - den * n : ℤ) / den := by
      push_cast
      field_simp
    rw [hdiff, abs_div, abs_of_pos hpos, Int.cast_abs]
  have hle : |(num : ℚ) / den - n| ≤ 1 / 2 ↔ 2 * |(num : ℤ) - den * n| ≤ den := by
    rw [hdist, div_le_div_iff₀ hpos two_pos, one_mul, mul_comm]
    norm_cast
  have heq : |(num : ℚ) / den - n| = 1 / 2 ↔ 2 * |(num : ℤ) - den * n| = den := by
    rw [hdist, div_eq_div_iff hpos.ne' two_ne_zero, one_mul, mul_comm]
    norm_cast
  constructor
  · rintro ⟨hnear, heven⟩
    exact ⟨hle.mp hnear, fun h => heven (heq.mpr h)⟩
  · rintro ⟨hnear, heven⟩
    exact ⟨hle.mpr hnear, fun h => heven (heq.mp h)⟩

theorem nearestEven_roundDiv (num : ℕ) {den : ℕ} (hden : 0 < den) :
    NearestEven (num / den) (roundDiv num den) := by
  have hsplit : den * (num / den) + num % den = num := Nat.div_add_mod num den
  have hrest : num % den < den := Nat.mod_lt num hden
  have hdown : (num : ℤ) - den * (num / den : ℕ) = (num % den : ℕ) := by
    have : ((den * (num / den) + num % den : ℕ) : ℤ) = num := by rw [hsplit]
    push_cast at this ⊢
    linarith
  have hup : (num : ℤ) - den * (num / den + 1 : ℕ) = (num % den : ℕ) - den := by
    have hexpand : (den : ℤ) * (num / den + 1 : ℕ) = den * (num / den : ℕ) + den := by
      push_cast
      ring
    rw [hexpand, ← sub_sub, hdown]
  rw [nearestEven_div_iff hden]
  -- Up past the half, up from an odd quotient at the half, else down.
  unfold roundDiv
  simp only
  split
  · rw [hup, abs_of_neg (by omega)]
    omega
  · split
    · rw [hup, abs_of_neg (by omega)]
      omega
    · rw [hdown, abs_of_nonneg (by omega)]
      omega

/-- What is rounded is the exact value. -/
theorem quotient_eq (m : ℕ) (e : ℤ) :
    0 < (quotient m e).2 ∧ ((quotient m e).1 : ℚ) / (quotient m e).2 = m * 2 ^ e := by
  cases e with
  | ofNat up =>
      refine ⟨Nat.one_pos, ?_⟩
      show ((m <<< up : ℕ) : ℚ) / (1 : ℕ) = m * 2 ^ (up : ℤ)
      rw [Nat.shiftLeft_eq]
      push_cast
      rw [div_one, zpow_natCast]
  | negSucc down =>
      refine ⟨Nat.two_pow_pos _, ?_⟩
      show (m : ℚ) / (2 ^ (down + 1) : ℕ) = m * 2 ^ Int.negSucc down
      rw [zpow_negSucc, div_eq_mul_inv]
      push_cast
      rfl

/-! ## Digits -/

/-- The last digits of a number, so many of them, with zeros in front if it has fewer. -/
def lastDigits : ℕ → ℕ → List Char
  | 0, _ => []
  | places + 1, n => lastDigits places (n / 10) ++ [Nat.digitChar (n % 10)]

theorem length_lastDigits (places n : ℕ) : (lastDigits places n).length = places := by
  induction places generalizing n with
  | zero => rfl
  | succ places ih => rw [lastDigits, List.length_append, ih, List.length_singleton]

/-- The digits of a number filled up with zeros, cut before its last ones. -/
theorem filled_eq (places n : ℕ) :
    List.replicate (places + 1 - (Nat.toDigits 10 n).length) '0' ++ Nat.toDigits 10 n
      = Nat.toDigits 10 (n / 10 ^ places) ++ lastDigits places n := by
  induction places generalizing n with
  | zero =>
      have hlength : 0 + 1 - (Nat.toDigits 10 n).length = 0 := by
        have := Nat.length_toDigits_pos (b := 10) (n := n)
        omega
      rw [hlength, pow_zero, Nat.div_one, lastDigits, List.append_nil, List.replicate_zero,
        List.nil_append]
  | succ places ih =>
      rw [lastDigits, ← List.append_assoc, pow_succ', ← Nat.div_div_eq_div_mul, ← ih]
      by_cases hn : n < 10
      · -- A single digit has all the zeros in front of it.
        have hzero : n / 10 = 0 := Nat.div_eq_of_lt hn
        rw [hzero, Nat.mod_eq_of_lt hn, Nat.toDigits_of_lt_base hn, Nat.toDigits_zero,
          List.length_singleton, List.length_singleton, ← List.replicate_succ']
        rfl
      · rw [Nat.toDigits_of_base_le (by decide) (not_lt.mp hn), List.length_append,
          List.length_singleton, ← List.append_assoc, Nat.add_sub_add_right]

/-- A number of units in the last place, split at the point. -/
theorem pointed_eq (places n : ℕ) :
    pointed places n = Nat.toDigits 10 (n / 10 ^ places)
      ++ if places = 0 then [] else '.' :: lastDigits places n := by
  have hwhole : ((Nat.toDigits 10 (n / 10 ^ places)) ++ lastDigits places n).length - places
      = (Nat.toDigits 10 (n / 10 ^ places)).length := by
    rw [List.length_append, length_lastDigits, Nat.add_sub_cancel]
  have hfilled : List.replicate (places + 1 - (natChars n).length) '0' ++ natChars n
      = Nat.toDigits 10 (n / 10 ^ places) ++ lastDigits places n := filled_eq places n
  simp only [pointed, hfilled, hwhole, List.take_left', List.drop_left']
  split
  · rw [List.append_nil]
  · rfl

/-! ## Texts -/

/-- A number that is not negative is written in its decimal digits. -/
theorem intText_natCast (n : ℕ) : intText n = toString n := by
  rw [Nat.toString_eq_ofList_toDigits]
  rfl

/-- Whether a text is that of a number with some decimal places. -/
def IsFixed (places : ℕ) (x : Float) (text : String) : Prop :=
  if x.isNaN = true then text = "NaN"
  else if x.isInf = true then text = if SignBit x then "-Inf" else "+Inf"
  else ∃ n : ℕ, NearestEven (|value x| * 10 ^ places) n
    ∧ text.toList = (if SignBit x then ['-'] else []) ++ Nat.toDigits 10 (n / 10 ^ places)
      ++ if places = 0 then [] else '.' :: lastDigits places n

/-- A finite number is rounded to a multiple of the last place. -/
theorem nearestEven_units (places : ℕ) {x : Float} {m : ℕ} {e : ℤ}
    (hvalue : |value x| = m * 2 ^ e) :
    NearestEven (|value x| * 10 ^ places)
      (roundDiv ((quotient m e).1 * 10 ^ places) (quotient m e).2) := by
  obtain ⟨hden, hquotient⟩ := quotient_eq m e
  have hexact : |value x| * 10 ^ places
      = ((quotient m e).1 * 10 ^ places : ℕ) / ((quotient m e).2 : ℚ) := by
    rw [hvalue, ← hquotient]
    push_cast
    ring
  rw [hexact]
  exact nearestEven_roundDiv _ hden

/-- **The text of a number with some decimal places**, and there is only one. -/
theorem isFixed_iff {places : ℕ} {x : Float} {text : String} :
    IsFixed places x text ↔ text = fixed places x := by
  unfold IsFixed fixed
  rcases ofFloat_cases x with ⟨hnan, hread⟩ | ⟨hnan, hinfinite, hread⟩
    | ⟨hnan, hinfinite, m, e, hread, hvalue⟩
  · rw [if_pos hnan, hread]
  · rw [if_neg (Bool.not_eq_true _ ▸ hnan), if_pos hinfinite, hread]
    by_cases hsign : SignBit x
    · simp [hsign]
    · simp [hsign]
  · rw [if_neg (Bool.not_eq_true _ ▸ hnan), if_neg (Bool.not_eq_true _ ▸ hinfinite), hread]
    have hunits := nearestEven_units places hvalue
    have htext : ∀ n : ℕ, (if SignBit x then ['-'] else []) ++ Nat.toDigits 10 (n / 10 ^ places)
        ++ (if places = 0 then [] else '.' :: lastDigits places n)
        = if SignBit x then '-' :: pointed places n else pointed places n := by
      intro n
      rw [pointed_eq]
      split <;> simp
    simp only [htext, ← String.toList_inj, String.toList_ofList, decide_eq_true_eq]
    constructor
    · rintro ⟨n, hn, h⟩
      obtain rfl := hn.unique hunits
      exact h
    · intro h
      exact ⟨_, hunits, h⟩

end Decimal

end Ricochet
