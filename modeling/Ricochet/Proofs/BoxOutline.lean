import Mathlib.Data.List.Nodup
import Ricochet.Proofs.ShapeCells

set_option autoImplicit false

/-! # The cells that a box paints

A box is drawn by four writes for its corners and two loops for its edges, each loop with bounds of
its own, and what lies off the screen is lost. The border that comes out is said in two ways. By
cells, it is what is in the rectangle and not in the rectangle one cell further in; by parts, it is
four corners and four edges, each with its character (`Rect.Outline`). That the parts make up the
border is a fact about rectangles. That no part reaches into another is one about the writes, of
which no two are to the same cell.

* `Rect.border_iff`, `Rect.exists_outline`, `Rect.Outline.border`: the border by cells and by parts.
* `nodup_boxWrites`: corners and edges do not overlap.
* `Screen.get_drawBox`: what each cell shows after drawing.
* `Screen.drawBox_paints_border`: the written cells, what they show, and what stays.
-/

namespace Ricochet

namespace Rect

variable {r : Rect} {x y n : Int}

/-! ## The border by cells -/

/-- Where there are enough cells to take off, the inset is by plain sums. -/
theorem inset_of_fits (hr : r.OfWords) (hfits : r.EdgesFit) (hn : 0 ≤ n) (hw : 2 * n ≤ r.w)
    (hh : 2 * n ≤ r.h) : r.inset n = ⟨r.x + n, r.y + n, r.w - 2 * n, r.h - 2 * n⟩ := by
  obtain ⟨⟨-, hright⟩, -, hbottom⟩ := hfits
  obtain ⟨hxs, hys, hws, hhs⟩ := hr
  have hzero : minWord ≤ 0 := by decide
  -- The new corner lies between the old one and the far edges, which are words.
  have hx : wrap64 (r.x + n) = r.x + n := wrap64_of_mem (by omega) (by omega)
  have hy : wrap64 (r.y + n) = r.y + n := wrap64_of_mem (by omega) (by omega)
  have hwidth : wrap64 (r.w - 2 * n) = r.w - 2 * n := wrap64_of_mem (by omega) (by omega)
  have hheight : wrap64 (r.h - 2 * n) = r.h - 2 * n := wrap64_of_mem (by omega) (by omega)
  rw [inset, hx, hy, hwidth, hheight, max_eq_right (by omega), max_eq_right (by omega)]

/-- The inset holds the cells that are at least so far from every edge. -/
theorem contains_inset_iff (hr : r.OfWords) (hfits : r.EdgesFit) (hn : 0 ≤ n) (hw : 2 * n ≤ r.w)
    (hh : 2 * n ≤ r.h) :
    (r.inset n).contains x y = true ↔
      (r.x + n ≤ x ∧ x < r.x + r.w - n) ∧ r.y + n ≤ y ∧ y < r.y + r.h - n := by
  have hinner : EdgesFit ⟨r.x + n, r.y + n, r.w - 2 * n, r.h - 2 * n⟩ := by
    obtain ⟨⟨-, hright⟩, -, hbottom⟩ := hfits
    obtain ⟨hxs, hys, -, -⟩ := hr
    simp only [EdgesFit]
    omega
  rw [inset_of_fits hr hfits hn hw hh, contains_iff hinner]
  simp only [Has]
  omega

theorem border_iff (hr : r.OfWords) (hfits : r.EdgesFit) (hw : 2 ≤ r.w) (hh : 2 ≤ r.h) (x y : Int) :
    r.Border x y ↔ r.contains x y = true ∧ ¬ (r.inset 1).contains x y = true := by
  rw [contains_iff hfits, contains_inset_iff hr hfits (by decide) hw hh, Border]
  refine and_congr_right fun _ => not_congr ?_
  omega

/-! ## The border by parts -/

/-- The parts of an outline: a character and a cell where it belongs. -/
inductive Outline (r : Rect) : Int → Int → Char → Prop where
  | topLeft : Outline r r.x r.y '┌'
  | topRight : Outline r (r.right - 1) r.y '┐'
  | bottomLeft : Outline r r.x (r.bottom - 1) '└'
  | bottomRight : Outline r (r.right - 1) (r.bottom - 1) '┘'
  | top {x : Int} : r.x < x → x < r.right - 1 → Outline r x r.y '─'
  | bottom {x : Int} : r.x < x → x < r.right - 1 → Outline r x (r.bottom - 1) '─'
  | left {y : Int} : r.y < y → y < r.bottom - 1 → Outline r r.x y '│'
  | right {y : Int} : r.y < y → y < r.bottom - 1 → Outline r (r.right - 1) y '│'

/-- Every cell of the border belongs to a part. -/
theorem exists_outline (hfits : r.EdgesFit) (h : r.Border x y) : ∃ c, r.Outline x y c := by
  have hright := hfits.right_eq
  have hbottom := hfits.bottom_eq
  obtain ⟨⟨hcolumns, hrows⟩, hedge⟩ := h
  have hcolumn : x = r.x ∨ (r.x < x ∧ x < r.right - 1) ∨ x = r.right - 1 := by omega
  have hrow : y = r.y ∨ (r.y < y ∧ y < r.bottom - 1) ∨ y = r.bottom - 1 := by omega
  rcases hcolumn with rfl | hcolumn | rfl
  · rcases hrow with rfl | hrow | rfl
    · exact ⟨_, .topLeft⟩
    · exact ⟨_, .left hrow.1 hrow.2⟩
    · exact ⟨_, .bottomLeft⟩
  · rcases hrow with rfl | hrow | rfl
    · exact ⟨_, .top hcolumn.1 hcolumn.2⟩
    · -- Between both pairs of edges lies the inside.
      omega
    · exact ⟨_, .bottom hcolumn.1 hcolumn.2⟩
  · rcases hrow with rfl | hrow | rfl
    · exact ⟨_, .topRight⟩
    · exact ⟨_, .right hrow.1 hrow.2⟩
    · exact ⟨_, .bottomRight⟩

section Parts

variable (hfits : r.EdgesFit) (hw : 2 ≤ r.w) (hh : 2 ≤ r.h)

include hfits hw hh

/-- Every part is on the border. -/
theorem Outline.border {c : Char} (h : r.Outline x y c) : r.Border x y := by
  have hright := hfits.right_eq
  have hbottom := hfits.bottom_eq
  cases h <;> simp only [Border, Has] <;> omega

/-- No cell belongs to two parts with different characters. -/
theorem Outline.char_eq {c : Char} (h : r.Outline x y c) : c = r.outlineChar x y := by
  have hright := hfits.right_eq
  have hbottom := hfits.bottom_eq
  cases h <;> grind [outlineChar]

end Parts

end Rect

/-! ## The writes of a box -/

/-- The cell that a write is to. -/
def Write.place (w : Write) : Int × Int := (w.x, w.y)

theorem nodup_span (lo hi : Int) : (span lo hi).Nodup := by
  refine List.Nodup.map (fun i j h => ?_) List.nodup_range
  simpa using h

/-- A loop that keeps to one row or one column in each round comes to no cell in two rounds. -/
theorem nodup_flatMap_span {places : Int → List (Int × Int)} (index : Int × Int → Int)
    (hnodup : ∀ i, (places i).Nodup) (hindex : ∀ i, ∀ p ∈ places i, index p = i) (lo hi : Int) :
    ((span lo hi).flatMap places).Nodup := by
  rw [List.nodup_flatMap]
  refine ⟨fun i _ => hnodup i, (nodup_span lo hi).imp fun {i j} hne p hi hj => hne ?_⟩
  rw [← hindex i p hi, ← hindex j p hj]

section Writes

variable {s : Screen} {r : Rect} {color : Color}

/-- The corners and the edges of a box do not overlap: no cell is written twice. -/
theorem nodup_boxWrites (hfits : r.EdgesFit) (hw : 2 ≤ r.w) (hh : 2 ≤ r.h) :
    ((boxWrites s r color).map Write.place).Nodup := by
  have hsides : ¬ (r.w < 2 ∨ r.h < 2) := by omega
  have hright := hfits.right_eq
  have hbottom := hfits.bottom_eq
  have hcolumns : r.x ≠ r.right - 1 := by omega
  have hrows : r.y ≠ r.bottom - 1 := by omega
  rw [boxWrites, if_neg hsides, cornerWrites, horizontalWrites, verticalWrites, List.map_append,
    List.map_append, List.map_flatMap, List.map_flatMap]
  simp only [List.map_cons, List.map_nil, Write.place]
  refine List.nodup_append.mpr ⟨List.nodup_append.mpr ⟨?_, ?_, ?_⟩, ?_, ?_⟩
  · simp [hcolumns, hrows]
  · exact nodup_flatMap_span Prod.fst (by simp [hrows]) (by simp) _ _
  · -- Corners are in the outer columns, and the upper and lower edges lie between them.
    rintro p hp q hq rfl
    simp only [List.mem_flatMap, mem_span, List.mem_cons, List.not_mem_nil, or_false,
      Prod.ext_iff] at hp hq
    obtain ⟨x, hx, hq⟩ := hq
    omega
  · exact nodup_flatMap_span Prod.snd (by simp [hcolumns]) (by simp) _ _
  · -- All of these are in the outer rows, and the left and right edges lie between them.
    rintro p hp q hq rfl
    have hends : p.2 = r.y ∨ p.2 = r.bottom - 1 := by
      simp only [List.mem_append, List.mem_flatMap, mem_span, List.mem_cons, List.not_mem_nil,
        or_false, Prod.ext_iff] at hp
      rcases hp with hp | ⟨x, hx, hp⟩
      · omega
      · omega
    simp only [List.mem_flatMap, mem_span, List.mem_cons, List.not_mem_nil, or_false,
      Prod.ext_iff] at hq
    obtain ⟨y, hy, hq⟩ := hq
    omega

/-- The cells of the screen that are written are those of the border. -/
theorem mem_place_boxWrites (hfits : r.EdgesFit) (hw : 2 ≤ r.w) (hh : 2 ≤ r.h) {x y : Int}
    (hon : s.onScreen x y = true) :
    (x, y) ∈ (boxWrites s r color).map Write.place ↔ r.Border x y := by
  rw [List.mem_map]
  constructor
  · rintro ⟨w, hmem, hplace⟩
    obtain ⟨rfl, rfl⟩ := Prod.mk.inj hplace
    exact (mem_boxWrites hfits hw hh hmem).1
  · intro hborder
    obtain ⟨w, hmem, rfl, rfl⟩ := exists_mem_boxWrites hfits hw hh hon hborder
    exact ⟨w, hmem, rfl⟩

end Writes

/-! ## The screen with a box -/

namespace Screen

variable {s : Screen} {r : Rect}

theorem drawBox_of_thin (s : Screen) (color : Color) (hthin : r.w < 2 ∨ r.h < 2) :
    s.drawBox r color = s := by
  rw [drawBox, boxWrites, if_pos hthin]
  rfl

/-- What a screen shows after a box is drawn. -/
theorem get_drawBox (hs : s.WellFormed) (hfits : r.EdgesFit) (hw : 2 ≤ r.w) (hh : 2 ≤ r.h)
    (color : Color) {x y : Int} (hon : s.onScreen x y = true) :
    (s.drawBox r color).get x y
      = if r.Border x y then Cell.ofChar (r.outlineChar x y) color else s.get x y := by
  rw [drawBox, get_draw hs _ hon, lastWrite_boxWrites hfits hw hh hon]
  split
  · rfl
  · rfl

/-- **A box paints exactly the border.** Take any screen, any colour and any rectangle. If a side of
the rectangle has fewer than two cells, nothing changes. Otherwise let its far edges be words; it
may lie on the screen, off it or across its edges.

* The screen keeps its size, and all its rows and cells.
* A cell of the screen is written if and only if it is in the rectangle and not in its inset by one,
  and no cell is written twice.
* Every other cell shows what it showed before.
* The border is the four corners and the four edges between them, and each of its cells that is on
  the screen shows the character of its part, in the colour of the box. -/
theorem drawBox_paints_border (hs : s.WellFormed) (hr : r.OfWords) (color : Color) :
    let drawn := s.drawBox r color
    let border (x y : Int) : Prop := r.contains x y = true ∧ ¬ (r.inset 1).contains x y = true
    (r.w < 2 ∨ r.h < 2 → drawn = s)
    ∧ (2 ≤ r.w → 2 ≤ r.h → r.EdgesFit →
      (drawn.WellFormed ∧ drawn.width = s.width ∧ drawn.height = s.height)
      ∧ (∀ x y, s.onScreen x y = true →
          ((x, y) ∈ (boxWrites s r color).map Write.place ↔ border x y))
      ∧ ((boxWrites s r color).map Write.place).Nodup
      ∧ (∀ x y, ¬ border x y → drawn.get x y = s.get x y)
      ∧ (∀ x y, border x y ↔ ∃ c, r.Outline x y c)
      ∧ ∀ x y c, r.Outline x y c → s.onScreen x y = true →
          drawn.get x y = Cell.ofChar c color) := by
  intro drawn border
  refine ⟨drawBox_of_thin s color, fun hw hh hfits => ?_⟩
  have hborder : ∀ x y, r.Border x y ↔ border x y := Rect.border_iff hr hfits hw hh
  refine ⟨⟨hs.draw _, width_draw s _, height_draw s _⟩, ?_, nodup_boxWrites hfits hw hh, ?_, ?_, ?_⟩
  · intro x y hon
    rw [← hborder, mem_place_boxWrites hfits hw hh hon]
  · intro x y hother
    rw [← hborder] at hother
    by_cases hon : s.onScreen x y = true
    · rw [get_drawBox hs hfits hw hh color hon, if_neg hother]
    · exact get_draw_of_not_onScreen _ hon
  · intro x y
    rw [← hborder]
    constructor
    · exact Rect.exists_outline hfits
    · rintro ⟨c, hpart⟩
      exact hpart.border hfits hw hh
  · intro x y c hpart hon
    rw [get_drawBox hs hfits hw hh color hon, if_pos (hpart.border hfits hw hh),
      ← hpart.char_eq hfits hw hh]

/-- A screen with letters on its second row. -/
def lettered : Screen := (sized 4 3).drawText 0 1 ['a', 'b', 'c', 'd'] Color.white

/-- A rectangle that begins to the left of that screen and ends below it. -/
def acrossEdges : Rect := ⟨-1, 0, 4, 5⟩

/-- Of the box across the edges, the upper edge, one corner and the right edge are seen. The letters
inside it and beside it stay. -/
theorem drawBox_paints_border_across :
    let drawn := lettered.drawBox acrossEdges Color.gray
    (lettered.WellFormed ∧ acrossEdges.OfWords ∧ acrossEdges.EdgesFit)
    ∧ drawn.get 0 0 = Cell.ofChar '─' Color.gray ∧ drawn.get 2 0 = Cell.ofChar '┐' Color.gray
    ∧ drawn.get 2 1 = Cell.ofChar '│' Color.gray
    ∧ drawn.get 1 1 = Cell.ofChar 'b' Color.white
    ∧ drawn.get 3 1 = Cell.ofChar 'd' Color.white := by
  intro drawn
  have hs : lettered.WellFormed := (wellFormed_sized 4 3).draw _
  have hr : acrossEdges.OfWords := ⟨by decide, by decide, by decide, by decide⟩
  have hfits : acrossEdges.EdgesFit := by
    unfold Rect.EdgesFit
    decide
  obtain ⟨-, -, -, hother, -, hshown⟩ :=
    (drawBox_paints_border hs hr Color.gray).2 (by decide) (by decide) hfits
  refine ⟨⟨hs, hr, hfits⟩, ?_, ?_, ?_, ?_, ?_⟩
  · exact hshown 0 0 '─' (.top (by decide) (by decide)) (by decide)
  · exact hshown 2 0 '┐' .topRight (by decide)
  · exact hshown 2 1 '│' (.right (by decide) (by decide)) (by decide)
  · exact (hother 1 1 (by decide)).trans (by decide +kernel)
  · exact (hother 3 1 (by decide)).trans (by decide +kernel)

end Screen

end Ricochet
