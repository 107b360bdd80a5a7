import Mathlib.Algebra.BigOperators.Intervals
import Mathlib.Algebra.BigOperators.Ring.Finset
import Mathlib.Data.Int.ModEq
import Mathlib.Data.List.GetD
import Mathlib.Data.List.Induction
import Mathlib.RingTheory.Coprime.Lemmas
import Mathlib.Tactic.Ring
import Ricochet.Field.Digest

set_option autoImplicit false

/-! # What a digest tells apart

The digest of a field is Horner's rule in the words modulo `2^64`: the word `j` of `m + 1` words
counts `31 ^ (m - j)` times (`digest_modEq`). So two fields of equally many balls have the same
digest exactly if the weighted differences of their words cancel out. They can, and then different
fields have the same digest. But 31 is odd, so no weight is lost modulo `2^64`
(`modEq_zero_of_weighted`), and a difference in a single word always shows.

* `Field.hash_eq_iff_differences_cancel`: both, for any number of balls and all bit patterns.
-/

namespace Ricochet

/-! ## Words as integers -/

theorem toNat_step_modEq (h w : UInt64) :
    ((h * 31 + w).toNat : Int) ≡ h.toNat * 31 + w.toNat [ZMOD 2 ^ 64] := by
  rw [UInt64.toNat_add, UInt64.toNat_mul]
  push_cast
  calc ((h.toNat : Int) * 31 % 2 ^ 64 + w.toNat) % 2 ^ 64
      ≡ (h.toNat : Int) * 31 % 2 ^ 64 + w.toNat [ZMOD 2 ^ 64] := Int.mod_modEq _ _
    _ ≡ h.toNat * 31 + w.toNat [ZMOD 2 ^ 64] := (Int.mod_modEq _ _).add_right _

/-- Words are equal if they are so modulo `2^64`. -/
theorem word_eq_iff_modEq (v w : UInt64) : v = w ↔ (v.toNat : Int) ≡ w.toNat [ZMOD 2 ^ 64] := by
  constructor
  · rintro rfl
    exact Int.ModEq.refl _
  · intro h
    have hv := v.toNat_lt
    have hw := w.toNat_lt
    have hmod : (v.toNat : Int) % 2 ^ 64 = w.toNat % 2 ^ 64 := h
    rw [← UInt64.toNat_inj]
    omega

/-- A power of 31 is invertible modulo `2^64`, so that a multiple by it vanishes with what is
multiplied only. -/
theorem modEq_zero_of_weighted {e : Nat} {z : Int} (h : 31 ^ e * z ≡ 0 [ZMOD 2 ^ 64]) :
    z ≡ 0 [ZMOD 2 ^ 64] := by
  have hcoprime : IsCoprime ((2 : Int) ^ 64) (31 ^ e) := by
    apply IsCoprime.pow
    -- 31 - 15 * 2 = 1
    exact ⟨-15, 1, by decide⟩
  rw [Int.modEq_zero_iff_dvd] at h ⊢
  exact hcoprime.dvd_of_dvd_mul_left h

/-! ## Horner's rule -/

/-- The integer that words make, the last one counted once and each word before it 31 times more. -/
def weightedSum (words : List UInt64) : Int :=
  ∑ j ∈ Finset.range words.length, 31 ^ (words.length - 1 - j) * ((words.getD j 0).toNat : Int)

theorem weightedSum_concat (words : List UInt64) (w : UInt64) :
    weightedSum (words ++ [w]) = weightedSum words * 31 + w.toNat := by
  have hlast : (words ++ [w]).getD words.length 0 = w := by
    simp [List.getD_eq_getElem?_getD]
  -- Each word before the new one moves one place away from the end.
  have hbefore : ∀ j ∈ Finset.range words.length,
      (31 : Int) ^ (words.length + 1 - 1 - j) * (((words ++ [w]).getD j 0).toNat : Int)
        = 31 ^ (words.length - 1 - j) * ((words.getD j 0).toNat : Int) * 31 := by
    intro j hj
    have hlt : j < words.length := Finset.mem_range.mp hj
    have hexponent : words.length + 1 - 1 - j = words.length - 1 - j + 1 := by omega
    have hword : (words ++ [w]).getD j 0 = words.getD j 0 := List.getD_append _ _ _ _ hlt
    rw [hexponent, hword, pow_succ]
    ring
  rw [weightedSum, List.length_append, List.length_singleton, Finset.sum_range_succ,
    Finset.sum_congr rfl hbefore, ← Finset.sum_mul, hlast, Nat.add_sub_cancel, Nat.sub_self,
    pow_zero, one_mul]
  rfl

/-- **A digest is Horner's rule modulo `2^64`.** -/
theorem digest_modEq (first : UInt64) (words : List UInt64) :
    ((digest first words).toNat : Int) ≡ weightedSum (first :: words) [ZMOD 2 ^ 64] := by
  induction words using List.reverseRecOn with
  | nil => simp [digest, weightedSum]
  | append_singleton words w ih =>
      have hstep : digest first (words ++ [w]) = digest first words * 31 + w := by
        rw [digest, List.foldl_append]
        rfl
      rw [hstep, ← List.cons_append, weightedSum_concat]
      calc ((digest first words * 31 + w).toNat : Int)
          ≡ (digest first words).toNat * 31 + w.toNat [ZMOD 2 ^ 64] := toNat_step_modEq _ w
        _ ≡ weightedSum (first :: words) * 31 + w.toNat [ZMOD 2 ^ 64] :=
          (ih.mul_right 31).add_right _

/-! ## Fields -/

section Words

variable {α : Type} (bits : α → UInt64)

/-- The five bit patterns of a ball by number: position, velocity and radius. -/
def Ball.word (b : Ball α) : Nat → UInt64
  | 0 => bits b.x.pos
  | 1 => bits b.y.pos
  | 2 => bits b.x.vel
  | 3 => bits b.y.vel
  | 4 => bits b.radius
  | _ => 0

/-- The words of a field by number: first the tick, and then five for each ball. -/
def Field.word (f : Field α) : Nat → UInt64
  | 0 => f.tick
  | j + 1 => ((f.balls[j / 5]?).map fun b => b.word bits (j % 5)).getD 0

theorem Ball.getD_words (b : Ball α) {j : Nat} (h : j < 5) :
    (b.words bits).getD j 0 = b.word bits j := by
  match j, h with
  | 0, _ => rfl
  | 1, _ => rfl
  | 2, _ => rfl
  | 3, _ => rfl
  | 4, _ => rfl

/-- The words that a digest takes from the balls, by number. -/
theorem getD_flatMap_words (balls : List (Ball α)) (j : Nat) :
    (balls.flatMap (Ball.words bits)).getD j 0
      = ((balls[j / 5]?).map fun b => b.word bits (j % 5)).getD 0 := by
  induction balls generalizing j with
  | nil => simp
  | cons b balls ih =>
      have hlength : (b.words bits).length = 5 := rfl
      rw [List.flatMap_cons]
      by_cases hj : j < 5
      · rw [List.getD_append _ _ _ _ (hlength ▸ hj), Ball.getD_words bits b hj, Nat.div_eq_of_lt hj,
          Nat.mod_eq_of_lt hj]
        rfl
      · obtain ⟨j, rfl⟩ : ∃ k, j = k + 5 := ⟨j - 5, by omega⟩
        rw [List.getD_append_right _ _ _ _ (by omega), hlength, Nat.add_sub_cancel, ih,
          Nat.add_div_right j (by decide), Nat.add_mod_right, List.getElem?_cons_succ]

end Words

namespace Field

variable {α : Type} (bits : α → UInt64)

theorem getD_words (f : Field α) (j : Nat) :
    (f.tick :: f.balls.flatMap (Ball.words bits)).getD j 0 = f.word bits j := by
  cases j with
  | zero => rfl
  | succ j => exact getD_flatMap_words bits f.balls j

theorem length_words (f : Field α) :
    (f.tick :: f.balls.flatMap (Ball.words bits)).length = 5 * f.balls.length + 1 := by
  have hfive : f.balls.map (fun b => (b.words bits).length) = f.balls.map fun _ => 5 := rfl
  rw [List.length_cons, List.length_flatMap, hfive, List.map_const', List.sum_replicate,
    smul_eq_mul, Nat.mul_comm]

/-- The words of a ball, told by its place. -/
theorem word_ball {f : Field α} {i : Nat} {b : Ball α} (h : f.balls[i]? = some b) {j : Nat}
    (hj : j < 5) : f.word bits (5 * i + j + 1) = b.word bits j := by
  have hplace : (5 * i + j) / 5 = i := by omega
  have hnumber : (5 * i + j) % 5 = j := by omega
  rw [word, hplace, hnumber, h, Option.map_some, Option.getD_some]

/-- The digest of a field as a sum over its words. -/
theorem hashBy_modEq {f : Field α} {n : Nat} (hn : f.balls.length = n) :
    ((f.hashBy bits).toNat : Int)
      ≡ ∑ j ∈ Finset.range (5 * n + 1), 31 ^ (5 * n - j) * ((f.word bits j).toNat : Int)
        [ZMOD 2 ^ 64] := by
  have h := digest_modEq f.tick (f.balls.flatMap (Ball.words bits))
  rw [weightedSum, length_words, hn, Nat.add_sub_cancel] at h
  simp only [getD_words] at h
  exact h

variable {f g : Field α} {n : Nat}

theorem hashBy_eq_iff (hf : f.balls.length = n) (hg : g.balls.length = n) :
    f.hashBy bits = g.hashBy bits
      ↔ ∑ j ∈ Finset.range (5 * n + 1),
          31 ^ (5 * n - j) * (((f.word bits j).toNat : Int) - (g.word bits j).toNat)
          ≡ 0 [ZMOD 2 ^ 64] := by
  have hdiff := (hashBy_modEq bits hf).sub (hashBy_modEq bits hg)
  rw [← Finset.sum_sub_distrib] at hdiff
  simp only [← mul_sub] at hdiff
  rw [word_eq_iff_modEq]
  constructor
  · intro h
    refine hdiff.symm.trans ?_
    simpa using h.sub_right ((g.hashBy bits).toNat : Int)
  · intro h
    simpa using (hdiff.trans h).add_right ((g.hashBy bits).toNat : Int)

/-- **What the digest of a field tells apart.** Number the words of a field: the tick is word 0, and
the bit patterns of positions, velocities and radius of the ball `i` are the words from `5 * i + 1`
to `5 * i + 5`. Two fields of `n` balls have the same digest if and only if the differences of their
words, that of word `j` taken `31 ^ (5 * n - j)` times, cancel out modulo `2^64`. So fields that
differ in exactly one word never have the same digest, however many balls there are and whichever
word it is. For binary64 numbers the patterns are their own bits. -/
theorem hash_eq_iff_differences_cancel (hf : f.balls.length = n) (hg : g.balls.length = n) :
    (∀ h : Field α, h.word bits 0 = h.tick
      ∧ ∀ i b, h.balls[i]? = some b →
        h.word bits (5 * i + 1) = bits b.x.pos ∧ h.word bits (5 * i + 2) = bits b.y.pos
        ∧ h.word bits (5 * i + 3) = bits b.x.vel ∧ h.word bits (5 * i + 4) = bits b.y.vel
        ∧ h.word bits (5 * i + 5) = bits b.radius)
    ∧ (f.hashBy bits = g.hashBy bits
      ↔ ∑ j ∈ Finset.range (5 * n + 1),
          31 ^ (5 * n - j) * (((f.word bits j).toNat : Int) - (g.word bits j).toNat)
          ≡ 0 [ZMOD 2 ^ 64])
    ∧ (∀ k ≤ 5 * n, f.word bits k ≠ g.word bits k →
        (∀ j ≤ 5 * n, j ≠ k → f.word bits j = g.word bits j) →
        f.hashBy bits ≠ g.hashBy bits)
    ∧ ∀ h : Field Float, h.hash = h.hashBy Float.toBits := by
  refine ⟨fun h => ⟨rfl, fun i b hb => ?_⟩, hashBy_eq_iff bits hf hg, ?_, fun _ => rfl⟩
  · exact ⟨word_ball bits hb (j := 0) (by decide), word_ball bits hb (j := 1) (by decide),
      word_ball bits hb (j := 2) (by decide), word_ball bits hb (j := 3) (by decide),
      word_ball bits hb (j := 4) (by decide)⟩
  · intro k hk hdiffer hsame heq
    have hcancel := (hashBy_eq_iff bits hf hg).mp heq
    -- Of the sum only the one word is left, and its weight does not hide it.
    have hothers : ∀ j ∈ Finset.range (5 * n + 1), j ≠ k →
        (31 : Int) ^ (5 * n - j) * (((f.word bits j).toNat : Int) - (g.word bits j).toNat) = 0 := by
      intro j hj hjk
      rw [hsame j (Nat.lt_succ_iff.mp (Finset.mem_range.mp hj)) hjk, sub_self, mul_zero]
    have hmem : k ∈ Finset.range (5 * n + 1) := Finset.mem_range.mpr (Nat.lt_succ_iff.mpr hk)
    rw [Finset.sum_eq_single_of_mem k hmem hothers] at hcancel
    have hzero := modEq_zero_of_weighted hcancel
    apply hdiffer
    rw [word_eq_iff_modEq]
    simpa using hzero.add_right ((g.word bits k).toNat : Int)

/-- A field of one ball, its numbers given as bit patterns: position, velocity and radius. -/
def patternField (tick x y vx vy radius : UInt64) : Field UInt64 :=
  { domain := ⟨0, 0⟩, balls := [⟨0, ⟨x, vx⟩, ⟨y, vy⟩, radius, Color.white⟩], tick := tick }

/-- A field of one ball of binary64 numbers. -/
def tickedField (tick : UInt64) : Field Float :=
  { domain := ⟨10, 12⟩, balls := [⟨0, ⟨8, -3⟩, ⟨5, 0⟩, 1, Color.white⟩], tick := tick }

/-- Two patterns of not-a-number that differ in one bit are told apart, wherever they stand, and so
are two ticks. One tick more makes up for a first pattern that is 31 less. -/
theorem hash_eq_iff_differences_cancel_patterns :
    (patternField 0 0x7ff8000000000000 1 2 3 4).hashBy id
      ≠ (patternField 0 0x7ff8000000000001 1 2 3 4).hashBy id
    ∧ (patternField 0 1 0x7ff8000000000000 2 3 4).hashBy id
      ≠ (patternField 0 1 0x7ff8000000000001 2 3 4).hashBy id
    ∧ (patternField 0 1 2 3 0x7ff8000000000000 4).hashBy id
      ≠ (patternField 0 1 2 3 0x7ff8000000000001 4).hashBy id
    ∧ (patternField 0 1 2 3 4 0x7ff8000000000000).hashBy id
      ≠ (patternField 0 1 2 3 4 0x7ff8000000000001).hashBy id
    ∧ (tickedField 6).hash ≠ (tickedField 7).hash
    ∧ (patternField 0 31 0 0 0 0).hashBy id = (patternField 1 0 0 0 0 0).hashBy id := by
  refine ⟨?_, ?_, ?_, ?_, ?_, ?_⟩
  · exact (hash_eq_iff_differences_cancel id (n := 1) rfl rfl).2.2.1 1 (by decide) (by decide)
      (by decide)
  · exact (hash_eq_iff_differences_cancel id (n := 1) rfl rfl).2.2.1 2 (by decide) (by decide)
      (by decide)
  · exact (hash_eq_iff_differences_cancel id (n := 1) rfl rfl).2.2.1 4 (by decide) (by decide)
      (by decide)
  · exact (hash_eq_iff_differences_cancel id (n := 1) rfl rfl).2.2.1 5 (by decide) (by decide)
      (by decide)
  · exact (hash_eq_iff_differences_cancel Float.toBits (n := 1) rfl rfl).2.2.1 0 (by decide)
      (by decide) fun j _ hj => by
        cases j with
        | zero => exact absurd rfl hj
        | succ j => rfl
  · exact (hash_eq_iff_differences_cancel id (n := 1) rfl rfl).2.1.mpr (by decide +kernel)

end Field

end Ricochet
