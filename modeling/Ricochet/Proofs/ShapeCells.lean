import Mathlib.Algebra.Order.Field.Basic
import Mathlib.Algebra.Order.Ring.Rat
import Mathlib.Tactic.Linarith
import Mathlib.Tactic.NormNum
import Ricochet.Numeric.Rational
import Ricochet.Proofs.ScreenBuffer
import Ricochet.Screen.Shapes

set_option autoImplicit false

/-! # Which cells a shape covers

The writes of a text, of a box and of an ellipse are told apart by the cells they reach: for a cell
of the screen, `lastWrite` of the shape's list is given outright (`lastWrite_textWrites`,
`lastWrite_boxWrites`, `lastWrite_ellipseWrites`). Lists leave out what lies off the screen, so for
boxes and ellipses the cell has to be on it.

Over the rational numbers the cells of an ellipse are those that it covers
(`Ellipse.mem_cells_iff`), except in the first row and column, where truncation brings in centres
from just off the screen (`Ellipse.mem_cells_iff_truncated`).
-/

namespace Ricochet

theorem mem_span {lo hi n : Int} : n ∈ span lo hi ↔ lo ≤ n ∧ n < hi := by
  simp only [span, List.mem_map, List.mem_range]
  constructor
  · rintro ⟨i, hi, rfl⟩
    omega
  · rintro ⟨hlo, hhi⟩
    exact ⟨(n - lo).toNat, by omega, by omega⟩

namespace Rect

/-- Whether a cell lies in a rectangle, by plain sums. -/
def Has (r : Rect) (x y : Int) : Prop := (r.x ≤ x ∧ x < r.x + r.w) ∧ r.y ≤ y ∧ y < r.y + r.h

/-- Whether the numbers of a rectangle are words. -/
structure OfWords (r : Rect) : Prop where
  x : minWord ≤ r.x ∧ r.x ≤ maxWord
  y : minWord ≤ r.y ∧ r.y ≤ maxWord
  w : minWord ≤ r.w ∧ r.w ≤ maxWord
  h : minWord ≤ r.h ∧ r.h ≤ maxWord

/-- Whether the far edges of a rectangle are words. -/
def EdgesFit (r : Rect) : Prop :=
  (minWord ≤ r.x + r.w ∧ r.x + r.w ≤ maxWord) ∧ minWord ≤ r.y + r.h ∧ r.y + r.h ≤ maxWord

instance (r : Rect) (x y : Int) : Decidable (r.Has x y) := inferInstanceAs (Decidable (_ ∧ _))

theorem EdgesFit.right_eq {r : Rect} (h : r.EdgesFit) : r.right = r.x + r.w :=
  r.right_of_fits h.1.1 h.1.2

theorem EdgesFit.bottom_eq {r : Rect} (h : r.EdgesFit) : r.bottom = r.y + r.h :=
  r.bottom_of_fits h.2.1 h.2.2

theorem contains_iff {r : Rect} (h : r.EdgesFit) (x y : Int) :
    r.contains x y = true ↔ r.Has x y := by
  simp only [contains, decide_eq_true_eq, h.right_eq, h.bottom_eq, Has]
  omega

/-- Whether a cell lies on the border of a rectangle: in it, but not in its inside. -/
def Border (r : Rect) (x y : Int) : Prop :=
  r.Has x y ∧ ¬ ((r.x < x ∧ x < r.x + r.w - 1) ∧ r.y < y ∧ y < r.y + r.h - 1)

instance (r : Rect) (x y : Int) : Decidable (r.Border x y) := inferInstanceAs (Decidable (_ ∧ _))

/-- The character of an outline at a cell of the border. -/
def outlineChar (r : Rect) (x y : Int) : Char :=
  if y = r.y then
    if x = r.x then '┌' else if x = r.x + r.w - 1 then '┐' else '─'
  else if y = r.y + r.h - 1 then
    if x = r.x then '└' else if x = r.x + r.w - 1 then '┘' else '─'
  else '│'

end Rect

/-! ## Text -/

theorem mem_textWrites {x y : Int} {chars : List Char} {color : Color} {w : Write} :
    w ∈ textWrites x y chars color ↔
      ∃ (i : Nat) (c : Char), chars[i]? = some c ∧ w = ⟨x + i, y, Cell.ofChar c color⟩ := by
  simp only [textWrites, List.mem_map, Prod.exists, List.mem_zipIdx_iff_getElem?]
  constructor
  · rintro ⟨c, i, hc, rfl⟩
    exact ⟨i, c, hc, rfl⟩
  · rintro ⟨i, c, hc, rfl⟩
    exact ⟨c, i, hc, rfl⟩

/-- A text covers its row from where it starts, one cell for each character. -/
theorem lastWrite_textWrites (x y : Int) (chars : List Char) (color : Color) (px py : Int) :
    lastWrite (textWrites x y chars color) px py
      = if py = y ∧ x ≤ px then (chars[(px - x).toNat]?).map (Cell.ofChar · color) else none := by
  split
  · rename_i hrow
    obtain ⟨rfl, hx⟩ := hrow
    cases hc : chars[(px - x).toNat]? with
    | none =>
        apply lastWrite_eq_none
        rintro w hw ⟨rfl, -⟩
        obtain ⟨i, c, hi, rfl⟩ := mem_textWrites.mp hw
        have hindex : (x + (i : Int) - x).toNat = i := by omega
        rw [hindex, hi] at hc
        cases hc
    | some c =>
        apply lastWrite_eq_some
        · exact ⟨_, mem_textWrites.mpr ⟨_, c, hc, rfl⟩, by simp only; omega, rfl⟩
        · intro w hw hwx hwy
          obtain ⟨i, c', hi, rfl⟩ := mem_textWrites.mp hw
          have hindex : (px - x).toNat = i := by
            simp only at hwx
            omega
          rw [hindex, hi] at hc
          cases hc
          rfl
  · rename_i hrow
    apply lastWrite_eq_none
    intro w hw hat
    obtain ⟨i, c, -, rfl⟩ := mem_textWrites.mp hw
    simp only at hat
    omega

/-! ## Boxes -/

section Box

variable {s : Screen} {r : Rect} {color : Color}

/-- Every write of an outline is to the border, where the corners and the edges meet without
overlapping: each cell gets the character of its place. -/
theorem mem_boxWrites (hfits : r.EdgesFit) (hw : 2 ≤ r.w) (hh : 2 ≤ r.h) {w : Write}
    (hmem : w ∈ boxWrites s r color) :
    r.Border w.x w.y ∧ w.cell = Cell.ofChar (r.outlineChar w.x w.y) color := by
  have hsides : ¬ (r.w < 2 ∨ r.h < 2) := by omega
  have hright := hfits.right_eq
  have hbottom := hfits.bottom_eq
  simp only [boxWrites, if_neg hsides, List.mem_append] at hmem
  rcases hmem with (hcorner | hedge) | hedge
  · simp only [cornerWrites, hright, hbottom, List.mem_cons, List.not_mem_nil, or_false] at hcorner
    rcases hcorner with rfl | rfl | rfl | rfl <;>
      refine ⟨by simp only [Rect.Border, Rect.Has]; omega, ?_⟩ <;> grind [Rect.outlineChar]
  · simp only [horizontalWrites, hright, hbottom, List.mem_flatMap, mem_span, List.mem_cons,
      List.not_mem_nil, or_false] at hedge
    obtain ⟨x, hx, rfl | rfl⟩ := hedge <;>
      refine ⟨by simp only [Rect.Border, Rect.Has]; omega, ?_⟩ <;> grind [Rect.outlineChar]
  · simp only [verticalWrites, hright, hbottom, List.mem_flatMap, mem_span, List.mem_cons,
      List.not_mem_nil, or_false] at hedge
    obtain ⟨y, hy, rfl | rfl⟩ := hedge <;>
      refine ⟨by simp only [Rect.Border, Rect.Has]; omega, ?_⟩ <;> grind [Rect.outlineChar]

theorem exists_mem_boxWrites (hfits : r.EdgesFit) (hw : 2 ≤ r.w) (hh : 2 ≤ r.h) {x y : Int}
    (hon : s.onScreen x y = true) (hborder : r.Border x y) :
    ∃ w ∈ boxWrites s r color, w.x = x ∧ w.y = y := by
  obtain ⟨hx, hy⟩ := (s.onScreen_iff x y).mp hon
  obtain ⟨⟨hcolumn, hrow⟩, hedge⟩ := hborder
  have hsides : ¬ (r.w < 2 ∨ r.h < 2) := by omega
  have hright := hfits.right_eq
  have hbottom := hfits.bottom_eq
  simp only [boxWrites, if_neg hsides, List.mem_append]
  by_cases hside : x = r.x ∨ x = r.x + r.w - 1
  · by_cases hends : y = r.y ∨ y = r.y + r.h - 1
    · refine ⟨⟨x, y, Cell.ofChar (r.outlineChar x y) color⟩, .inl (.inl ?_), rfl, rfl⟩
      simp only [cornerWrites, hright, hbottom, List.mem_cons]
      rcases hside with rfl | rfl <;> rcases hends with rfl | rfl <;> grind [Rect.outlineChar]
    · have hspan : y ∈ span (max 0 (r.y + 1)) (min s.height (r.bottom - 1)) := by
        rw [mem_span, hbottom]
        omega
      rcases hside with rfl | rfl
      · exact ⟨_, .inr (List.mem_flatMap.mpr ⟨y, hspan, List.mem_cons_self⟩), rfl, rfl⟩
      · exact ⟨_, .inr (List.mem_flatMap.mpr
          ⟨y, hspan, List.mem_cons_of_mem _ List.mem_cons_self⟩), by rw [hright], rfl⟩
  · -- A cell of the border off the two sides is on the upper or the lower edge, and no corner.
    have hends : y = r.y ∨ y = r.y + r.h - 1 := by omega
    have hspan : x ∈ span (max 0 (r.x + 1)) (min s.width (r.right - 1)) := by
      rw [mem_span, hright]
      omega
    rcases hends with rfl | rfl
    · exact ⟨_, .inl (.inr (List.mem_flatMap.mpr ⟨x, hspan, List.mem_cons_self⟩)), rfl, rfl⟩
    · exact ⟨_, .inl (.inr (List.mem_flatMap.mpr
        ⟨x, hspan, List.mem_cons_of_mem _ List.mem_cons_self⟩)), rfl, by rw [hbottom]⟩

/-- An outline covers the border of its rectangle. -/
theorem lastWrite_boxWrites (hfits : r.EdgesFit) (hw : 2 ≤ r.w) (hh : 2 ≤ r.h) {x y : Int}
    (hon : s.onScreen x y = true) :
    lastWrite (boxWrites s r color) x y
      = if r.Border x y then some (Cell.ofChar (r.outlineChar x y) color) else none := by
  split
  · rename_i hborder
    apply lastWrite_eq_some (exists_mem_boxWrites hfits hw hh hon hborder)
    rintro w hmem rfl rfl
    exact (mem_boxWrites hfits hw hh hmem).2
  · rename_i hborder
    apply lastWrite_eq_none
    rintro w hmem ⟨rfl, rfl⟩
    exact hborder (mem_boxWrites hfits hw hh hmem).1

end Box

/-! ## Ellipses -/

section Ellipse

variable {α : Type} [Scalar α]

/-- The square around an ellipse that is searched for covered cells. -/
def Ellipse.searches (e : Ellipse α) (x y : Int) : Prop :=
  (Scalar.truncInt (e.cx - e.rx) ≤ x ∧ x ≤ Scalar.truncInt (e.cx + e.rx))
    ∧ Scalar.truncInt (e.cy - e.ry) ≤ y ∧ y ≤ Scalar.truncInt (e.cy + e.ry)

/-- The covered cells of the clip in some rows and columns, and the cell of the centre. -/
def Ellipse.among (e : Ellipse α) (rows columns : List Int) (clip : Rect) : List (Int × Int) :=
  (rows.flatMap fun y =>
    (columns.filter fun x => clip.contains x y && e.covers x y).map fun x => (x, y))
  ++ if clip.contains (Scalar.truncInt e.cx) (Scalar.truncInt e.cy) then
      [(Scalar.truncInt e.cx, Scalar.truncInt e.cy)] else []

theorem Ellipse.mem_among (e : Ellipse α) (rows columns : List Int) (clip : Rect) (x y : Int) :
    (x, y) ∈ e.among rows columns clip ↔
      clip.contains x y = true
        ∧ ((x ∈ columns ∧ y ∈ rows) ∧ e.covers x y = true
          ∨ x = Scalar.truncInt e.cx ∧ y = Scalar.truncInt e.cy) := by
  have hcovered : (x, y) ∈ (rows.flatMap fun y =>
        (columns.filter fun x => clip.contains x y && e.covers x y).map fun x => (x, y))
      ↔ clip.contains x y = true ∧ (x ∈ columns ∧ y ∈ rows) ∧ e.covers x y = true := by
    simp only [List.mem_flatMap, List.mem_map, List.mem_filter, Bool.and_eq_true, Prod.mk.injEq]
    constructor
    · rintro ⟨py, hpy, px, ⟨hpx, hclip, hin⟩, rfl, rfl⟩
      exact ⟨hclip, ⟨hpx, hpy⟩, hin⟩
    · rintro ⟨hclip, ⟨hx, hy⟩, hin⟩
      exact ⟨y, hy, x, ⟨hx, hclip, hin⟩, rfl, rfl⟩
  have hcentre : (x, y) ∈ (if clip.contains (Scalar.truncInt e.cx) (Scalar.truncInt e.cy) then
        [(Scalar.truncInt e.cx, Scalar.truncInt e.cy)] else [])
      ↔ clip.contains x y = true ∧ x = Scalar.truncInt e.cx ∧ y = Scalar.truncInt e.cy := by
    split
    · rename_i hclip
      rw [List.mem_singleton, Prod.mk.injEq]
      constructor
      · rintro ⟨rfl, rfl⟩
        exact ⟨hclip, rfl, rfl⟩
      · exact fun h => h.2
    · rename_i hclip
      constructor
      · exact fun h => nomatch h
      · rintro ⟨h, rfl, rfl⟩
        exact absurd h hclip
  rw [among, List.mem_append, hcovered, hcentre, ← and_or_left]

/-- The cells of an ellipse on the screen: those of the clip that are searched and covered, and the
cell of the centre. -/
theorem Ellipse.mem_cells (e : Ellipse α) {s : Screen} (clip : Rect) {x y : Int}
    (hon : s.onScreen x y = true) :
    (x, y) ∈ e.cells s.width s.height clip ↔
      clip.contains x y = true
        ∧ (e.searches x y ∧ e.covers x y = true
          ∨ x = Scalar.truncInt e.cx ∧ y = Scalar.truncInt e.cy) := by
  have hcells : e.cells s.width s.height clip = e.among
      (span (max 0 (Scalar.truncInt (e.cy - e.ry)))
        (min s.height (Scalar.truncInt (e.cy + e.ry) + 1)))
      (span (max 0 (Scalar.truncInt (e.cx - e.rx)))
        (min s.width (Scalar.truncInt (e.cx + e.rx) + 1))) clip := rfl
  -- Rows and columns end at the screen, which `omega` takes from `hx` and `hy`.
  obtain ⟨hx, hy⟩ := (s.onScreen_iff x y).mp hon
  have hsearch : (x ∈ span (max 0 (Scalar.truncInt (e.cx - e.rx)))
        (min s.width (Scalar.truncInt (e.cx + e.rx) + 1))
      ∧ y ∈ span (max 0 (Scalar.truncInt (e.cy - e.ry)))
        (min s.height (Scalar.truncInt (e.cy + e.ry) + 1))) ↔ e.searches x y := by
    rw [mem_span, mem_span, searches]
    omega
  rw [hcells, mem_among, hsearch]

/-- The same cell written in several places. -/
theorem lastWrite_map_cell (places : List (Int × Int)) (cell : Cell) (x y : Int)
    [Decidable ((x, y) ∈ places)] :
    lastWrite (places.map fun (x, y) => ⟨x, y, cell⟩) x y
      = if (x, y) ∈ places then some cell else none := by
  have hmem : ∀ w, w ∈ places.map (fun (x, y) => (⟨x, y, cell⟩ : Write)) ↔
      ∃ x y, (x, y) ∈ places ∧ w = ⟨x, y, cell⟩ := by
    intro w
    simp only [List.mem_map, Prod.exists, eq_comm]
  split
  · rename_i hin
    apply lastWrite_eq_some ⟨_, (hmem _).mpr ⟨x, y, hin, rfl⟩, rfl, rfl⟩
    intro w hw _ _
    obtain ⟨px, py, -, rfl⟩ := (hmem w).mp hw
    rfl
  · rename_i hout
    apply lastWrite_eq_none
    rintro w hw ⟨rfl, rfl⟩
    obtain ⟨px, py, hin, rfl⟩ := (hmem w).mp hw
    exact hout hin

/-- An ellipse puts its cell on each of its cells. -/
theorem lastWrite_ellipseWrites (s : Screen) (e : Ellipse α) (clip : Rect) (cell : Cell)
    (x y : Int) [Decidable ((x, y) ∈ e.cells s.width s.height clip)] :
    lastWrite (ellipseWrites s e clip cell) x y
      = if (x, y) ∈ e.cells s.width s.height clip then some cell else none :=
  lastWrite_map_cell (e.cells s.width s.height clip) cell x y

end Ellipse

/-! ## Ellipses in exact arithmetic -/

section Truncation

variable {n : Int} {q : Rat}

theorem le_truncRat (hn : 0 ≤ n) (h : (n : Rat) ≤ q) : n ≤ truncRat q := by
  have hq : 0 ≤ q := le_trans (by exact_mod_cast hn) h
  rw [truncRat, if_pos hq]
  exact Rat.le_floor_iff.mpr h

/-- Below a natural number and one: a negative number is rounded up, but not past zero. -/
theorem truncRat_le (hn : 0 ≤ n) (h : q < n + 1) : truncRat q ≤ n := by
  rw [truncRat]
  split
  · have hlt : q.floor < n + 1 := Rat.floor_lt_iff.mpr (by exact_mod_cast h)
    omega
  · rename_i hq
    have hn' : (0 : Rat) ≤ n := by exact_mod_cast hn
    exact Rat.ceil_le_iff.mpr (by linarith)

/-- Whether a coordinate lies in a cell. -/
def LiesIn (q : Rat) (n : Int) : Prop := (n : Rat) ≤ q ∧ q < n + 1

/-- Whether a coordinate lies between minus one and zero, from where it is truncated to the cell at
zero. -/
def SlipsIn (q : Rat) (n : Int) : Prop := n = 0 ∧ -1 < q ∧ q < 0

instance (q : Rat) (n : Int) : Decidable (LiesIn q n) := inferInstanceAs (Decidable (_ ∧ _))

instance (q : Rat) (n : Int) : Decidable (SlipsIn q n) := inferInstanceAs (Decidable (_ ∧ _))

/-- Truncation gives the cell that holds a coordinate, and the cell at zero also gets the
coordinates just before it. -/
theorem eq_truncRat_iff (hn : 0 ≤ n) : n = truncRat q ↔ LiesIn q n ∨ SlipsIn q n := by
  constructor
  · intro heq
    by_cases hq : 0 ≤ q
    · rw [truncRat, if_pos hq] at heq
      subst heq
      exact .inl ⟨Rat.floor_le q, by exact_mod_cast Rat.lt_floor_add_one q⟩
    · rw [truncRat, if_neg hq] at heq
      have hceil : q.ceil ≤ 0 := Rat.ceil_le_iff.mpr (by push_cast; linarith)
      have hzero : q.ceil = 0 := by omega
      have hlow : -1 < q := by
        by_contra hle
        have hceil' : q.ceil ≤ -1 := Rat.ceil_le_iff.mpr (by push_cast; linarith)
        omega
      exact .inr ⟨by omega, hlow, not_le.mp hq⟩
  · rintro (⟨hlo, hhi⟩ | ⟨rfl, hlow, hneg⟩)
    · exact le_antisymm (le_truncRat hn hlo) (truncRat_le hn hhi)
    · have hceil : -1 < q.ceil := by
        have hle : q ≤ q.ceil := Rat.le_ceil
        have hlt : ((-1 : Int) : Rat) < q.ceil := by push_cast; linarith
        exact_mod_cast hlt
      have htrunc : truncRat q ≤ 0 := truncRat_le le_rfl (by push_cast; linarith)
      rw [truncRat, if_neg (not_le.mpr hneg)] at *
      omega

end Truncation

namespace Ellipse

/-- Whether an ellipse covers a cell: the middle of the cell lies in it, or its centre lies in the
cell. -/
def Covers (e : Ellipse Rat) (x y : Int) : Prop :=
  ((x + 1 / 2 - e.cx) / e.rx) ^ 2 + ((y + 1 / 2 - e.cy) / e.ry) ^ 2 ≤ 1
    ∨ ((x : Rat) ≤ e.cx ∧ e.cx < x + 1) ∧ (y : Rat) ≤ e.cy ∧ e.cy < y + 1

instance (e : Ellipse Rat) (x y : Int) : Decidable (e.Covers x y) :=
  inferInstanceAs (Decidable (_ ∨ _))

variable {e : Ellipse Rat} {x y : Int}

theorem covers_iff :
    e.covers x y = true ↔
      ((x + 1 / 2 - e.cx) / e.rx) ^ 2 + ((y + 1 / 2 - e.cy) / e.ry) ^ 2 ≤ 1 := by
  rw [pow_two, pow_two]
  show decide (_ ≤ ((1 : Int) : Rat)) = true ↔ _
  rw [decide_eq_true_eq, Int.cast_one]
  rfl

/-- Along one axis, a covered middle is at most a radius from the centre, so the truncated ends of
the ellipse lie on both sides of its cell. -/
theorem truncRat_bounds {i : Int} {c r : Rat} (hr : 0 < r) (hi : 0 ≤ i)
    (h : ((i + 1 / 2 - c) / r) ^ 2 ≤ 1) : truncRat (c - r) ≤ i ∧ i ≤ truncRat (c + r) := by
  have habs : |(i + 1 / 2 - c) / r| ≤ 1 := (sq_le_one_iff_abs_le_one _).mp h
  rw [abs_div, abs_of_pos hr, div_le_one hr, abs_le] at habs
  exact ⟨truncRat_le hi (by linarith), le_truncRat hi (by linarith)⟩

/-- Nothing that an ellipse covers lies outside the square that is searched. -/
theorem searches_of_covers (hrx : 0 < e.rx) (hry : 0 < e.ry) (hx : 0 ≤ x) (hy : 0 ≤ y)
    (h : e.covers x y = true) : e.searches x y := by
  have hsum := covers_iff.mp h
  -- Each square is at most the sum, so each axis can be treated alone.
  have hdx := sq_nonneg ((x + 1 / 2 - e.cx) / e.rx)
  have hdy := sq_nonneg ((y + 1 / 2 - e.cy) / e.ry)
  exact ⟨truncRat_bounds hrx hx (by linarith), truncRat_bounds hry hy (by linarith)⟩

/-- The cells of an ellipse on the screen are the cells of the clip whose middles lie in it, and the
cell to which its centre is truncated. -/
theorem mem_cells_iff_truncated {s : Screen} {clip : Rect} (hrx : 0 < e.rx) (hry : 0 < e.ry)
    (hon : s.onScreen x y = true) :
    (x, y) ∈ e.cells s.width s.height clip ↔ clip.contains x y = true
      ∧ (((x + 1 / 2 - e.cx) / e.rx) ^ 2 + ((y + 1 / 2 - e.cy) / e.ry) ^ 2 ≤ 1
        ∨ (LiesIn e.cx x ∨ SlipsIn e.cx x) ∧ (LiesIn e.cy y ∨ SlipsIn e.cy y)) := by
  obtain ⟨hx, hy⟩ := (s.onScreen_iff x y).mp hon
  have hsearch : e.searches x y ∧ e.covers x y = true ↔ e.covers x y = true :=
    ⟨fun h => h.2, fun h => ⟨searches_of_covers hrx hry hx.1 hy.1 h, h⟩⟩
  have hcx : x = Scalar.truncInt e.cx ↔ LiesIn e.cx x ∨ SlipsIn e.cx x := eq_truncRat_iff hx.1
  have hcy : y = Scalar.truncInt e.cy ↔ LiesIn e.cy y ∨ SlipsIn e.cy y := eq_truncRat_iff hy.1
  rw [mem_cells e clip hon, hsearch, covers_iff, hcx, hcy]

/-- Off the first row and column, the cells of an ellipse are the cells of the clip that it
covers. -/
theorem mem_cells_iff {s : Screen} {clip : Rect} (hclip : clip.EdgesFit) (hrx : 0 < e.rx)
    (hry : 0 < e.ry) (hon : s.onScreen x y = true) (hx : 1 ≤ x) (hy : 1 ≤ y) :
    (x, y) ∈ e.cells s.width s.height clip ↔ clip.Has x y ∧ e.Covers x y := by
  have hslip : ∀ {q : Rat} {n : Int}, 1 ≤ n → (LiesIn q n ∨ SlipsIn q n ↔ LiesIn q n) := by
    intro q n hn
    refine or_iff_left ?_
    rintro ⟨rfl, -⟩
    omega
  rw [mem_cells_iff_truncated hrx hry hon, Rect.contains_iff hclip, hslip hx, hslip hy]
  rfl

end Ellipse

end Ricochet
