set_option autoImplicit false

/-! # How far two words are apart

The distance of two words is the least number of letters that must be put in, taken out or replaced
to turn one into the other. It is found row by row: the row of a word `s` lists the distances of `s`
to all beginnings of `t`, and the row of `s` with one more letter follows from it.
-/

namespace Ricochet.Text

variable {β : Type} [DecidableEq β]

/-- The rest of the next row, for the letter `c`. `left` is the entry before, and `diagonal` the one
above that. -/
def rowFrom (c : β) (left diagonal : Nat) : List β → List Nat → List Nat
  | t :: ts, up :: ups =>
      let here := if c = t then diagonal else min (min up left) diagonal + 1
      here :: rowFrom c here up ts ups
  | _, _ => []

/-- The row after one more letter. -/
def nextRow (t : List β) (row : List Nat) (c : β) : List Nat :=
  match row with
  | [] => []
  | first :: row => (first + 1) :: rowFrom c (first + 1) first t row

/-- The distance of two words. -/
def distance (s t : List β) : Nat :=
  (s.foldl (nextRow t) (List.range (t.length + 1))).getLastD 0

/-- The empty word is as far from a word as that word is long. -/
theorem distance_nil (t : List β) : distance [] t = t.length := by
  simp [distance, List.range_succ]

end Ricochet.Text
