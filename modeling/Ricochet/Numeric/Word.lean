set_option autoImplicit false

/-! # Signed 64-bit words

Cell coordinates, counters of milliseconds and nanoseconds, and seeds are signed 64-bit words. They
are kept as integers, and an operation that can leave the range is followed by `wrap64`. Inside the
range `wrap64` does nothing (`wrap64_of_mem`), so most coordinate arithmetic is plain integer
arithmetic.
-/

namespace Ricochet

/-- The least signed 64-bit word. -/
def minWord : Int := -9223372036854775808

/-- The greatest signed 64-bit word. -/
def maxWord : Int := 9223372036854775807

/-- The signed 64-bit word that agrees with `n` modulo `2^64`. -/
def wrap64 (n : Int) : Int := (n + 9223372036854775808) % 18446744073709551616 - 9223372036854775808

/-- A word wraps to itself. -/
theorem wrap64_of_mem {n : Int} (lo : minWord ≤ n) (hi : n ≤ maxWord) : wrap64 n = n := by
  simp only [wrap64, minWord, maxWord] at *
  omega

/-- Every result of `wrap64` is a word. -/
theorem wrap64_mem (n : Int) : minWord ≤ wrap64 n ∧ wrap64 n ≤ maxWord := by
  simp only [wrap64, minWord, maxWord]
  omega

/-- `n` moved to the nearer end of `lo … hi`; the lower end is tested first. -/
def clamp (n lo hi : Int) : Int :=
  if n < lo then lo else if hi < n then hi else n

end Ricochet
