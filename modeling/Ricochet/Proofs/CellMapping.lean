import Ricochet.Proofs.EllipseFill
import Ricochet.Proofs.Picture

set_option autoImplicit false

/-! # The cell of a point, and the cell that shows it

A point is given a cell in two ways that know nothing of each other. A viewport rounds the projected
point down and moves the cell into its rectangle; a filled ellipse truncates its centre toward zero.
Both are read off on one axis: rounding down is monotone and keeps the point in its cell
(`columnOf_holds`), and where the projected point is not negative and lies before the far edge,
truncation gives the same cell. A ball that lies in its domain has such a centre, so its cell is
painted, and only a ball drawn later can paint over it.

* `Viewport.cellX_eq`, `Viewport.cellY_eq`: the cell of a point, axis by axis.
* `Ball.covers_toCell`: a ball covers the cell of its position.
* `Viewport.cells_hold_points_and_show_balls`: the mapping, and what is seen of it on a screen.
-/

namespace Ricochet

/-! ## Rectangles with cells -/

/-- Whether a rectangle of words has cells: its sides are positive, and some cell is in it. If a far
edge is past the last word, none is. -/
structure Rect.HasCells (r : Rect) : Prop extends r.OfWords where
  sides : 0 < r.w ∧ 0 < r.h
  some_cell : ∃ x y, r.contains x y = true

/-- An edge with a cell before it was not wrapped. -/
theorem edge_le_of_lt_wrap64 {start side n : Int} (hstart : minWord ≤ start)
    (hside : side ≤ maxWord) (hn : start ≤ n) (hlt : n < wrap64 (start + side)) :
    start + side ≤ maxWord := by
  simp only [minWord, maxWord, wrap64] at *
  omega

theorem Rect.HasCells.edgesFit {r : Rect} (h : r.HasCells) : r.EdgesFit := by
  obtain ⟨⟨hx, hy, hw, hh⟩, hsides, px, py, hcell⟩ := h
  obtain ⟨hleft, hright, htop, hbottom⟩ := of_decide_eq_true hcell
  have hr : r.x + r.w ≤ maxWord := edge_le_of_lt_wrap64 hx.1 hw.2 hleft hright
  have hb : r.y + r.h ≤ maxWord := edge_le_of_lt_wrap64 hy.1 hh.2 htop hbottom
  exact ⟨⟨by omega, hr⟩, by omega, hb⟩

/-! ## One axis -/

/-- Where a point at `t` of an extent lies on an axis of `count` cells from `start` on. -/
def placeOf (start count : Int) (extent t : Rat) : Rat := start + t * (count / extent)

/-- The cell of a place on an axis: rounded down, and moved onto the axis. -/
def columnOf (start count : Int) (p : Rat) : Int := clamp p.floor start (start + count - 1)

section Axis

variable {start count : Int} {extent t : Rat} {p q : Rat}

theorem clamp_eq_max_min {n lo hi : Int} (h : lo ≤ hi) : clamp n lo hi = max lo (min hi n) := by
  unfold clamp
  split
  · omega
  · split <;> omega

theorem columnOf_eq (hcount : 0 < count) (p : Rat) :
    columnOf start count p = max start (min (start + count - 1) p.floor) :=
  clamp_eq_max_min (by omega)

theorem columnOf_mem (hcount : 0 < count) (p : Rat) :
    start ≤ columnOf start count p ∧ columnOf start count p < start + count := by
  rw [columnOf_eq hcount]
  omega

theorem columnOf_mono (hcount : 0 < count) (h : p ≤ q) :
    columnOf start count p ≤ columnOf start count q := by
  have hfloor : p.floor ≤ q.floor := Rat.floor_monotone h
  rw [columnOf_eq hcount, columnOf_eq hcount]
  omega

/-- A place before the far edge lies in its cell. -/
theorem liesIn_columnOf (hcount : 0 < count) (hlo : (start : Rat) ≤ p) (hhi : p < start + count) :
    LiesIn p (columnOf start count p) := by
  have hfirst : start ≤ p.floor := Rat.le_floor_iff.mpr hlo
  have hlast : p.floor < start + count := Rat.floor_lt_iff.mpr (by push_cast; exact hhi)
  have hfloor : columnOf start count p = p.floor := by
    rw [columnOf_eq hcount]
    omega
  rw [hfloor]
  exact ⟨Rat.floor_le p, by exact_mod_cast Rat.lt_floor_add_one p⟩

/-- A place up to the far edge lies in its cell or at the end of it. -/
theorem columnOf_holds (hcount : 0 < count) (hlo : (start : Rat) ≤ p) (hhi : p ≤ start + count) :
    (columnOf start count p : Rat) ≤ p ∧ p ≤ columnOf start count p + 1 := by
  rcases hhi.lt_or_eq with hlt | hedge
  · obtain ⟨hle, hlt'⟩ := liesIn_columnOf hcount hlo hlt
    exact ⟨hle, hlt'.le⟩
  · -- The far edge begins a cell that is off the axis, and is folded back to the last one.
    have hfloor : p.floor = start + count := by
      rw [hedge, ← Int.cast_add, Rat.floor_intCast]
    have hlast : columnOf start count p = start + count - 1 := by
      rw [columnOf_eq hcount, hfloor]
      omega
    rw [hlast, hedge]
    push_cast
    constructor <;> linarith

theorem placeOf_mono (start : Int) (hextent : 0 < extent) (hcount : 0 < count) {t' : Rat}
    (h : t ≤ t') : placeOf start count extent t ≤ placeOf start count extent t' := by
  have hcount' : (0 : Rat) < count := by exact_mod_cast hcount
  have hscaled := mul_le_mul_of_nonneg_right h (div_pos hcount' hextent).le
  unfold placeOf
  linarith

theorem placeOf_extent (start count : Int) (hextent : 0 < extent) :
    placeOf start count extent extent = start + count := by
  rw [placeOf, mul_div_cancel₀ _ hextent.ne']

/-- A point of the extent lies on the axis. -/
theorem placeOf_mem (start : Int) (hextent : 0 < extent) (hcount : 0 < count) (h0 : 0 ≤ t)
    (h1 : t ≤ extent) :
    (start : Rat) ≤ placeOf start count extent t
      ∧ placeOf start count extent t ≤ start + count := by
  have hzero : placeOf start count extent 0 = start := by
    rw [placeOf, zero_mul, add_zero]
  have hlo := placeOf_mono start hextent hcount h0
  have hhi := placeOf_mono start hextent hcount h1
  rw [hzero] at hlo
  rw [placeOf_extent start count hextent] at hhi
  exact ⟨hlo, hhi⟩

theorem placeOf_lt (start : Int) (hextent : 0 < extent) (hcount : 0 < count) (h : t < extent) :
    placeOf start count extent t < start + count := by
  have hcount' : (0 : Rat) < count := by exact_mod_cast hcount
  have hscaled := mul_lt_mul_of_pos_right h (div_pos hcount' hextent)
  rw [← placeOf_extent start count hextent]
  unfold placeOf
  linarith

/-- The last cell of an axis, as words have it. -/
theorem lastCell_eq (hstart : minWord ≤ start) (hcount : 0 < count)
    (hedge : start + count ≤ maxWord) :
    max start (wrap64 (wrap64 (start + count) - 1)) = start + count - 1 := by
  have hinner : wrap64 (start + count) = start + count := wrap64_of_mem (by omega) hedge
  rw [hinner, wrap64_of_mem (by omega) (by omega)]
  omega

end Axis

/-! ## Both axes -/

namespace Viewport

variable {v : Viewport Rat}

theorem projectX_eq (hwidth : 0 < v.width) (x : Rat) :
    v.projectX x = placeOf v.cells.x v.cells.w v.width x := by
  have hscale : v.scaleX = v.cells.w / v.width := if_neg (not_le.mpr hwidth)
  rw [projectX, hscale]
  rfl

/-- Rows are counted from the top, so that a row tells how far a point is from there. -/
theorem projectY_eq (hheight : 0 < v.height) (y : Rat) :
    v.projectY y = placeOf v.cells.y v.cells.h v.height (v.height - y) := by
  have hscale : v.scaleY = v.cells.h / v.height := if_neg (not_le.mpr hheight)
  rw [projectY, hscale]
  rfl

theorem cellX_eq (hcells : v.cells.HasCells) (x : Rat) :
    v.cellX x = columnOf v.cells.x v.cells.w (v.projectX x) := by
  have hlast := lastCell_eq hcells.x.1 hcells.sides.1 hcells.edgesFit.1.2
  rw [cellX, Rect.right, hlast]
  rfl

theorem cellY_eq (hcells : v.cells.HasCells) (y : Rat) :
    v.cellY y = columnOf v.cells.y v.cells.h (v.projectY y) := by
  have hlast := lastCell_eq hcells.y.1 hcells.sides.2 hcells.edgesFit.2.2
  rw [cellY, Rect.bottom, hlast]
  rfl

theorem has_toCell (hcells : v.cells.HasCells) (x y : Rat) :
    v.cells.Has (v.cellX x) (v.cellY y) := by
  rw [cellX_eq hcells, cellY_eq hcells]
  exact ⟨columnOf_mem hcells.sides.1 _, columnOf_mem hcells.sides.2 _⟩

section Mapping

variable (hcells : v.cells.HasCells)

include hcells

theorem cellX_mono (hwidth : 0 < v.width) {x x' : Rat} (h : x ≤ x') : v.cellX x ≤ v.cellX x' := by
  rw [cellX_eq hcells, cellX_eq hcells, projectX_eq hwidth, projectX_eq hwidth]
  exact columnOf_mono hcells.sides.1 (placeOf_mono _ hwidth hcells.sides.1 h)

theorem cellY_anti (hheight : 0 < v.height) {y y' : Rat} (h : y ≤ y') : v.cellY y' ≤ v.cellY y := by
  have hdepth : v.height - y' ≤ v.height - y := by linarith
  rw [cellY_eq hcells, cellY_eq hcells, projectY_eq hheight, projectY_eq hheight]
  exact columnOf_mono hcells.sides.2 (placeOf_mono _ hheight hcells.sides.2 hdepth)

theorem cellX_holds (hwidth : 0 < v.width) {x : Rat} (h0 : 0 ≤ x) (h1 : x ≤ v.width) :
    (v.cellX x : Rat) ≤ v.projectX x ∧ v.projectX x ≤ v.cellX x + 1 := by
  obtain ⟨hlo, hhi⟩ := placeOf_mem v.cells.x hwidth hcells.sides.1 h0 h1
  rw [cellX_eq hcells, projectX_eq hwidth]
  exact columnOf_holds hcells.sides.1 hlo hhi

theorem cellY_holds (hheight : 0 < v.height) {y : Rat} (h0 : 0 ≤ y) (h1 : y ≤ v.height) :
    (v.cellY y : Rat) ≤ v.projectY y ∧ v.projectY y ≤ v.cellY y + 1 := by
  obtain ⟨hlo, hhi⟩ := placeOf_mem v.cells.y hheight hcells.sides.2 (sub_nonneg.mpr h1)
    (sub_le_self _ h0)
  rw [cellY_eq hcells, projectY_eq hheight]
  exact columnOf_holds hcells.sides.2 hlo hhi

/-- Before the right edge a point lies in its column. -/
theorem liesIn_cellX (hwidth : 0 < v.width) {x : Rat} (h0 : 0 ≤ x) (h1 : x < v.width) :
    LiesIn (v.projectX x) (v.cellX x) := by
  obtain ⟨hlo, -⟩ := placeOf_mem v.cells.x hwidth hcells.sides.1 h0 h1.le
  rw [cellX_eq hcells, projectX_eq hwidth]
  exact liesIn_columnOf hcells.sides.1 hlo (placeOf_lt _ hwidth hcells.sides.1 h1)

/-- Above the lower edge a point lies in its row. -/
theorem liesIn_cellY (hheight : 0 < v.height) {y : Rat} (h0 : 0 < y) (h1 : y ≤ v.height) :
    LiesIn (v.projectY y) (v.cellY y) := by
  obtain ⟨hlo, -⟩ := placeOf_mem v.cells.y hheight hcells.sides.2 (sub_nonneg.mpr h1)
    (sub_le_self _ h0.le)
  rw [cellY_eq hcells, projectY_eq hheight]
  exact liesIn_columnOf hcells.sides.2 hlo
    (placeOf_lt _ hheight hcells.sides.2 (sub_lt_self _ h0))

end Mapping

end Viewport

/-! ## Balls on a screen -/

section Shown

variable {s : Screen} {frame : Rect} {d : Domain Rat} {b : Ball Rat}

/-- A frame that lies on a screen has cells. -/
theorem hasCells_of_filledIn (hframe : frame.FilledIn s.bounds) (hwidth : (s.width : Int) ≤ maxWord)
    (hheight : (s.height : Int) ≤ maxWord) : frame.HasCells := by
  obtain ⟨⟨hw, hleft, hright⟩, hh, htop, hbottom⟩ := hframe
  simp only [Screen.bounds] at hleft hright htop hbottom
  have hmin : minWord ≤ 0 := by decide
  have hwords : frame.OfWords := ⟨by omega, by omega, by omega, by omega⟩
  have hfits : frame.EdgesFit := ⟨by omega, by omega⟩
  have hcorner : frame.Has frame.x frame.y := ⟨by omega, by omega⟩
  exact ⟨hwords, by omega, frame.x, frame.y, (Rect.contains_iff hfits _ _).mpr hcorner⟩

theorem onScreen_of_filledIn (hframe : frame.FilledIn s.bounds) {x y : Int} (h : frame.Has x y) :
    s.onScreen x y = true := by
  obtain ⟨⟨-, hleft, hright⟩, -, htop, hbottom⟩ := hframe
  simp only [Screen.bounds, Rect.Has] at *
  rw [Screen.onScreen_iff]
  omega

namespace Ball

/-- A ball in its domain is off all four walls. -/
theorem off_walls_of_inside (hin : b.inside d = true) (hr : 0 < b.radius) :
    (0 < b.x.pos ∧ b.x.pos < d.width) ∧ 0 < b.y.pos ∧ b.y.pos < d.height := by
  obtain ⟨hleft, hright, hlow, hhigh⟩ := of_decide_eq_true hin
  refine ⟨⟨?_, ?_⟩, ?_, ?_⟩ <;> linarith

/-- The centre of a ball in its domain lies in the cell of its position. -/
theorem liesIn_toCell (hframe : frame.HasCells) (hin : b.inside d = true) (hr : 0 < b.radius) :
    LiesIn (b.projected frame d).cx (Viewport.cellX ⟨frame, d.width, d.height⟩ b.x.pos)
      ∧ LiesIn (b.projected frame d).cy (Viewport.cellY ⟨frame, d.width, d.height⟩ b.y.pos) := by
  obtain ⟨⟨hx0, hx1⟩, hy0, hy1⟩ := off_walls_of_inside hin hr
  rw [← ellipse_eq_projected (hx0.trans hx1) (hy0.trans hy1)]
  exact ⟨Viewport.liesIn_cellX hframe (hx0.trans hx1) hx0.le hx1,
    Viewport.liesIn_cellY hframe (hy0.trans hy1) hy0 hy1.le⟩

theorem covers_toCell (hframe : frame.HasCells) (hin : b.inside d = true) (hr : 0 < b.radius) :
    (b.projected frame d).Covers (Viewport.cellX ⟨frame, d.width, d.height⟩ b.x.pos)
      (Viewport.cellY ⟨frame, d.width, d.height⟩ b.y.pos) :=
  .inr (liesIn_toCell hframe hin hr)

/-- On a frame that lies on the screen, a ball in its domain paints the cells that it covers: its
centre is not negative, so that it is truncated to the cell that holds it. -/
theorem lastWrite_ballWrites_of_inside (hframe : frame.HasCells) (hx : 0 ≤ frame.x)
    (hy : 0 ≤ frame.y) (hin : b.inside d = true) (hr : 0 < b.radius) {x y : Int}
    (hon : s.onScreen x y = true) (hcell : frame.Has x y) :
    lastWrite (ballWrites s frame ⟨frame, d.width, d.height⟩ b) x y
      = if decide ((b.projected frame d).Covers x y) then some (b.paint frame d) else none := by
  obtain ⟨⟨hx0, hx1⟩, hy0, hy1⟩ := off_walls_of_inside hin hr
  obtain ⟨hcx, hcy⟩ := liesIn_toCell hframe hin hr
  obtain ⟨hcolumn, hrow⟩ := Viewport.has_toCell (v := ⟨frame, d.width, d.height⟩) hframe b.x.pos
    b.y.pos
  obtain ⟨hrx, hry⟩ := radii_projected_pos (hx0.trans hx1) (hy0.trans hy1) hframe.sides.1
    hframe.sides.2 hr
  have hcx0 : 0 ≤ (b.projected frame d).cx :=
    le_trans (by exact_mod_cast hx.trans hcolumn.1) hcx.1
  have hcy0 : 0 ≤ (b.projected frame d).cy :=
    le_trans (by exact_mod_cast hy.trans hrow.1) hcy.1
  have hstays : ¬ (b.projected frame d).Strays x y :=
    Ellipse.not_strays (fun h => absurd hcx0 (not_le.mpr h.2)) fun h => absurd hcy0 (not_le.mpr h.2)
  apply lastWrite_ballWrites_of_cells (hx0.trans hx1) (hy0.trans hy1)
  rw [Ellipse.mem_cells_iff_strays hrx hry hon, Rect.contains_iff hframe.edgesFit]
  exact ⟨fun h => h.2.resolve_right hstays, fun h => ⟨hcell, .inl h⟩⟩

end Ball

/-- The last item that passes a test is found among an item that passes it and those after it. -/
theorem exists_find?_reverse {β : Type} (test : β → Bool) {item : β} (h : test item = true)
    (earlier later : List β) :
    ∃ last ∈ item :: later, test last = true
      ∧ (earlier ++ item :: later).reverse.find? test = some last
      ∧ ((∀ other ∈ later, test other = false) → last = item) := by
  have hsplit : (earlier ++ item :: later).reverse.find? test
      = (later.reverse.find? test).or (some item) := by
    rw [List.reverse_append, List.reverse_cons, List.append_assoc, List.find?_append]
    simp [h]
  rw [hsplit]
  cases hfind : later.reverse.find? test with
  | none => exact ⟨item, List.mem_cons_self, h, rfl, fun _ => rfl⟩
  | some last =>
      have hmem : last ∈ later := List.mem_reverse.mp (List.mem_of_find?_eq_some hfind)
      have htest : test last = true := List.find?_some hfind
      refine ⟨last, List.mem_cons_of_mem _ hmem, htest, rfl, fun hnone => ?_⟩
      rw [hnone last hmem] at htest
      cases htest

/-- The cell of a ball shows the last of the balls from it on that covers the cell. -/
theorem exists_get_drawBalls (hs : s.WellFormed) (hframe : frame.FilledIn s.bounds)
    (hcells : frame.HasCells) {earlier later : List (Ball Rat)}
    (hballs : ∀ c ∈ earlier ++ b :: later, c.inside d = true ∧ 0 < c.radius) {x y : Int}
    (hx : Viewport.cellX ⟨frame, d.width, d.height⟩ b.x.pos = x)
    (hy : Viewport.cellY ⟨frame, d.width, d.height⟩ b.y.pos = y) :
    ∃ c ∈ b :: later, (c.projected frame d).Covers x y
      ∧ (s.drawBalls frame d (earlier ++ b :: later)).get x y = c.paint frame d
      ∧ ((∀ other ∈ later, ¬ (other.projected frame d).Covers x y) → c = b) := by
  have hcell : frame.Has x y := by
    rw [← hx, ← hy]
    exact Viewport.has_toCell hcells b.x.pos b.y.pos
  have hon := onScreen_of_filledIn hframe hcell
  have hcovers : (b.projected frame d).Covers x y := by
    obtain ⟨hin, hr⟩ := hballs b (by simp)
    rw [← hx, ← hy]
    exact Ball.covers_toCell hcells hin hr
  have hpaint := lastWrite_flatMap fun c (hc : c ∈ earlier ++ b :: later) =>
    Ball.lastWrite_ballWrites_of_inside hcells hframe.columns.2.1 hframe.rows.2.1 (hballs c hc).1
      (hballs c hc).2 hon hcell
  obtain ⟨c, hmem, hcovers', hfind, hown⟩ := exists_find?_reverse
    (fun c : Ball Rat => decide ((c.projected frame d).Covers x y)) (decide_eq_true hcovers)
    earlier later
  refine ⟨c, hmem, of_decide_eq_true hcovers', ?_, fun hnone => hown fun other hother => ?_⟩
  · rw [Screen.drawBalls, Screen.get_draw hs _ hon, hpaint, hfind]
    rfl
  · exact decide_eq_false (hnone other hother)

/-- A painted cell shows one of the two characters of balls, in the colour of its ball. -/
theorem Ball.char_paint (frame : Rect) (d : Domain Rat) (b : Ball Rat) :
    (b.paint frame d).char = ballFill ∨ (b.paint frame d).char = ballDot := by
  unfold Ball.paint
  split
  · exact .inr rfl
  · exact .inl rfl

end Shown

/-- **The cell of a point, and the ball in it.** In a viewport with cells and extent, every point
gets a cell of the rectangle; the column does not fall as `x` grows, whatever the rows, and the row
does not grow as `y` grows; and a point of the area, edges included, is projected into the closed
square of its cell. On a frame that lies on a screen, draw balls that all lie in their domain. Then
the cell of each ball shows one of the characters of balls. What it shows is the last of the balls
from this one on that covers the cell; so where no later ball covers it, it shows this ball in its
own colour. -/
theorem Viewport.cells_hold_points_and_show_balls :
    (∀ v : Viewport Rat, v.cells.HasCells → 0 < v.width → 0 < v.height →
      (∀ x y, v.cells.contains (v.toCell x y).1 (v.toCell x y).2 = true)
      ∧ (∀ x x' y y', x ≤ x' → (v.toCell x y).1 ≤ (v.toCell x' y').1)
      ∧ (∀ x x' y y', y ≤ y' → (v.toCell x' y').2 ≤ (v.toCell x y).2)
      ∧ ∀ x y, (0 ≤ x ∧ x ≤ v.width) → (0 ≤ y ∧ y ≤ v.height) →
        (((v.toCell x y).1 : Rat) ≤ v.projectX x ∧ v.projectX x ≤ (v.toCell x y).1 + 1)
        ∧ ((v.toCell x y).2 : Rat) ≤ v.projectY y ∧ v.projectY y ≤ (v.toCell x y).2 + 1)
    ∧ ∀ (s : Screen) (frame : Rect) (d : Domain Rat) (balls : List (Ball Rat)),
      s.WellFormed → (s.width : Int) ≤ maxWord → (s.height : Int) ≤ maxWord →
      frame.FilledIn s.bounds → (∀ b ∈ balls, b.inside d = true ∧ 0 < b.radius) →
      ∀ earlier b later, balls = earlier ++ b :: later →
        let v : Viewport Rat := ⟨frame, d.width, d.height⟩
        let cell := v.toCell b.x.pos b.y.pos
        let shown := (s.drawBalls frame d balls).get cell.1 cell.2
        (shown.char = ballFill ∨ shown.char = ballDot)
        ∧ (∃ c ∈ b :: later, (c.projected frame d).Covers cell.1 cell.2
          ∧ shown = c.paint frame d)
        ∧ ((∀ c ∈ later, ¬ (c.projected frame d).Covers cell.1 cell.2) →
          shown = b.paint frame d ∧ shown.color = b.color) := by
  refine ⟨fun v hcells hwidth hheight => ⟨fun x y => ?_, fun x x' _ _ h => ?_, fun _ _ y y' h => ?_,
    fun x y hx hy => ⟨?_, ?_⟩⟩, ?_⟩
  · exact (Rect.contains_iff hcells.edgesFit _ _).mpr (Viewport.has_toCell hcells x y)
  · exact Viewport.cellX_mono hcells hwidth h
  · exact Viewport.cellY_anti hcells hheight h
  · exact Viewport.cellX_holds hcells hwidth hx.1 hx.2
  · exact Viewport.cellY_holds hcells hheight hy.1 hy.2
  · rintro s frame d balls hs hwidth hheight hframe hballs earlier b later rfl v cell shown
    have hcells := hasCells_of_filledIn hframe hwidth hheight
    obtain ⟨c, hmem, hcovers, hget, hown⟩ :=
      exists_get_drawBalls hs hframe hcells hballs (x := cell.1) (y := cell.2) rfl rfl
    refine ⟨?_, ⟨c, hmem, hcovers, hget⟩, fun hlater => ?_⟩
    · rw [show shown = c.paint frame d from hget]
      exact c.char_paint frame d
    · have hshown : shown = b.paint frame d := by
        rw [← hown hlater]
        exact hget
      exact ⟨hshown, by rw [hshown]; rfl⟩

/-- Two columns of a domain on one cell, on a screen that the frame fills. -/
def cornerView : Viewport Rat := ⟨⟨0, 0, 8, 4⟩, 16, 16⟩

/-- A small ball in the upper left corner, one in the lower right corner, and one over the
latter. -/
def cornerBalls : List (Ball Rat) :=
  [⟨0, ⟨1, 0⟩, ⟨15, 0⟩, 1, Color.gray⟩, ⟨1, ⟨15, 0⟩, ⟨1, 0⟩, 1, Color.white⟩,
    ⟨2, ⟨14, 0⟩, ⟨2, 0⟩, 2, Color.orange⟩]

/-- The lower right corner of the domain belongs to the last cell. The gray ball shows in the first
cell; the cell of the white ball is that of the orange one too, which shows. -/
theorem Viewport.cells_hold_points_and_show_balls_corner :
    let shown := (Screen.sized 8 4).drawBalls cornerView.cells ⟨16, 16⟩ cornerBalls
    cornerView.cells.HasCells
    ∧ (∀ b ∈ cornerBalls, b.inside ⟨16, 16⟩ = true ∧ 0 < b.radius)
    ∧ cornerView.toCell 16 0 = (7, 3) ∧ cornerView.projectX 16 ≤ (cornerView.toCell 16 0).1 + 1
    ∧ cornerView.toCell 1 15 = (0, 0)
    ∧ shown.get (cornerView.toCell 1 15).1 (cornerView.toCell 1 15).2 = Cell.ofChar '●' Color.gray
    ∧ cornerView.toCell 15 1 = cornerView.toCell 14 2
    ∧ shown.get (cornerView.toCell 14 2).1 (cornerView.toCell 14 2).2
      = Cell.ofChar '●' Color.orange := by
  intro shown
  have hframe : cornerView.cells.FilledIn (Screen.sized 8 4).bounds := ⟨by decide, by decide⟩
  have hcells : cornerView.cells.HasCells :=
    hasCells_of_filledIn hframe (by decide) (by decide)
  have hballs : ∀ b ∈ cornerBalls, b.inside ⟨16, 16⟩ = true ∧ 0 < b.radius := by decide +kernel
  obtain ⟨hmap, hshow⟩ := Viewport.cells_hold_points_and_show_balls
  obtain ⟨-, -, -, hholds⟩ := hmap cornerView hcells (by decide +kernel) (by decide +kernel)
  have hcorner := hshow (Screen.sized 8 4) cornerView.cells ⟨16, 16⟩ cornerBalls
    (Screen.wellFormed_sized 8 4) (by decide) (by decide) hframe hballs
  obtain ⟨-, -, hgray⟩ := hcorner [] _ (cornerBalls.drop 1) rfl
  obtain ⟨-, -, horange⟩ := hcorner (cornerBalls.take 2) _ [] rfl
  refine ⟨hcells, hballs, by decide +kernel,
    (hholds 16 0 (by decide +kernel) (by decide +kernel)).1.2, by decide +kernel, ?_,
    by decide +kernel, ?_⟩
  · exact (hgray (by decide +kernel)).1.trans (by decide +kernel)
  · exact (horange (by decide +kernel)).1.trans (by decide +kernel)

end Ricochet
