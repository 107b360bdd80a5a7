import Ricochet.Demo.Balls
import Ricochet.Proofs.FixedText
import Ricochet.Proofs.ShapeCells

set_option autoImplicit false

/-! # The picture of a field

A field is drawn as a box, the balls in it and a status line, none of which gets in the way of
another: the frame lies inside the box (`fitFrame_filledIn`), the balls stay in the frame
(`lastWrite_ballWrites_outside`), and the box ends above the last row. So each cell of the picture
is told by where it lies: in the frame by the last ball that covers it, and in the ring around the
frame by its side or corner (`Rect.Ring`), as `BallShow.render_shows_field` says.
-/

namespace Ricochet

/-! ## The frame -/

theorem clamp_mem {n lo hi : Int} (h : lo ≤ hi) : lo ≤ clamp n lo hi ∧ clamp n lo hi ≤ hi := by
  unfold clamp
  split
  · omega
  · split <;> omega

/-- Half of the cells left over, before and after the inner side. -/
theorem margin_mem {outer inner : Int} (h : inner ≤ outer) :
    0 ≤ margin outer inner ∧ margin outer inner + inner ≤ outer := by
  have hdiv : margin outer inner = (outer - inner) / 2 :=
    Int.tdiv_eq_ediv_of_nonneg (by omega)
  omega

/-- Whether a rectangle has cells, all of them in another rectangle. -/
structure Rect.FilledIn (inner outer : Rect) : Prop where
  columns : 1 ≤ inner.w ∧ outer.x ≤ inner.x ∧ inner.x + inner.w ≤ outer.x + outer.w
  rows : 1 ≤ inner.h ∧ outer.y ≤ inner.y ∧ inner.y + inner.h ≤ outer.y + outer.h

/-- The cells of a screen between the box and the status line. -/
def Screen.fieldArea (s : Screen) : Rect := ⟨1, 1, s.width - 2, s.height - 3⟩

/-- Whether a frame has cells, all of them between the box and the status line of a screen. The
sides of the screen are words, as the arithmetic of edges asks. -/
structure Rect.FramedOn (frame : Rect) (s : Screen) : Prop extends frame.FilledIn s.fieldArea where
  width_le : (s.width : Int) ≤ maxWord
  height_le : (s.height : Int) ≤ maxWord

section Frame

variable {α : Type} [Scalar α]

/-- One side of a frame: a length from one up to the side of the area, in its middle. -/
theorem centred_mem {start side n : Int} (hside : 1 ≤ side) (hlo : minWord ≤ start)
    (hhi : start + side ≤ maxWord) :
    1 ≤ clamp n 1 side ∧ start ≤ wrap64 (start + margin side (clamp n 1 side))
      ∧ wrap64 (start + margin side (clamp n 1 side)) + clamp n 1 side ≤ start + side := by
  obtain ⟨hone, hle⟩ := clamp_mem (n := n) hside
  obtain ⟨hbefore, hafter⟩ := margin_mem hle
  rw [wrap64_of_mem (by omega) (by omega)]
  omega

/-- The frame of a domain has cells, all of them in the area. Only the limits put on its sides
matter, whatever the scale is. -/
theorem fitFrame_filledIn {area : Rect} {d : Domain α} (hw : 1 ≤ area.w) (hh : 1 ≤ area.h)
    (hfits : area.EdgesFit) (hx : minWord ≤ area.x) (hy : minWord ≤ area.y)
    (hwidth : ¬ d.width ≤ Scalar.zero) (hheight : ¬ d.height ≤ Scalar.zero) :
    (fitFrame area d).FilledIn area := by
  have hsides : ¬ (area.w ≤ 0 ∨ area.h ≤ 0 ∨ d.width ≤ Scalar.zero ∨ d.height ≤ Scalar.zero) := by
    rintro (h | h | h | h)
    · omega
    · omega
    · exact hwidth h
    · exact hheight h
  rw [fitFrame, if_neg hsides]
  exact ⟨centred_mem hw hx hfits.1.2, centred_mem hh hy hfits.2.2⟩

/-- On a screen that is large enough, the frame is fitted between the box and the status line. -/
theorem fieldFrame_eq {s : Screen} (d : Domain α) (hw : leastWidth ≤ s.width)
    (hh : leastHeight ≤ s.height) (hwidth : (s.width : Int) ≤ maxWord)
    (hheight : (s.height : Int) ≤ maxWord) :
    fieldFrame s d = fitFrame s.fieldArea d := by
  simp only [leastWidth, leastHeight, maxWord] at hw hh hwidth hheight
  have hinset : Rect.inset ⟨0, 0, s.width, s.height - 1⟩ 1 = s.fieldArea := by
    simp only [Rect.inset, Screen.fieldArea, wrap64, Rect.mk.injEq]
    omega
  rw [fieldFrame, hinset]

end Frame

/-! ## The layers -/

section Layers

variable {α : Type} [Scalar α]

/-- All writes of a picture, in order: the box, the balls, the status line. -/
def pictureWrites (s : Screen) (frame : Rect) (title : String) (f : Field α) (paused : Bool) :
    List Write :=
  boxWrites s (boxAround frame) Color.gray
    ++ f.balls.flatMap (ballWrites s frame ⟨frame, f.domain.width, f.domain.height⟩)
    ++ textWrites 0 (s.height - 1) (statusLine title f paused).toList Color.gray

/-- The writes of a ball depend only on the size of the screen, so drawing does not change them. -/
theorem ballWrites_draw (s : Screen) (ws : List Write) (frame : Rect) (v : Viewport α) :
    ballWrites (s.draw ws) frame v = ballWrites s frame v := by
  funext b
  simp only [ballWrites, ellipseWrites, Screen.width_draw, Screen.height_draw]

theorem drawField_eq_draw (s : Screen) (title : String) (f : Field α) (paused : Bool) :
    s.drawField title f paused
      = s.draw (pictureWrites s (fieldFrame s f.domain) title f paused) := by
  simp only [Screen.drawField, Screen.drawBox, Screen.drawBalls, Screen.drawText, pictureWrites,
    ballWrites_draw]
  simp only [Screen.draw, List.foldl_append]

/-- A ball writes nothing outside its frame, whatever its numbers are. -/
theorem lastWrite_ballWrites_outside {s : Screen} {frame : Rect} {v : Viewport α} {x y : Int}
    (hon : s.onScreen x y = true) (hout : ¬ frame.contains x y = true) (balls : List (Ball α)) :
    lastWrite (balls.flatMap (ballWrites s frame v)) x y = none := by
  apply lastWrite_eq_none
  rintro w hw ⟨rfl, rfl⟩
  obtain ⟨b, -, hwrite⟩ := List.mem_flatMap.mp hw
  obtain ⟨⟨px, py⟩, hcell, rfl⟩ := List.mem_map.mp hwrite
  exact hout ((Ellipse.mem_cells _ _ hon).mp hcell).1

end Layers

/-! ## Balls in exact arithmetic -/

namespace Ball

/-- The ellipse of a ball in a frame. Columns grow with `x`, rows grow as `y` falls. -/
def projected (frame : Rect) (d : Domain Rat) (b : Ball Rat) : Ellipse Rat :=
  { cx := frame.x + b.x.pos * (frame.w / d.width)
    cy := frame.y + (d.height - b.y.pos) * (frame.h / d.height)
    rx := b.radius * (frame.w / d.width)
    ry := b.radius * (frame.h / d.height) }

/-- What a cell shows that a ball covers: a dot for a ball of less than one cell in some direction,
else a full cell. -/
def paint (frame : Rect) (d : Domain Rat) (b : Ball Rat) : Cell :=
  Cell.ofChar
    (if (b.projected frame d).rx < 1 ∨ (b.projected frame d).ry < 1 then '●' else '█') b.color

variable {frame : Rect} {d : Domain Rat}

theorem ellipse_eq_projected (hwidth : 0 < d.width) (hheight : 0 < d.height) (b : Ball Rat) :
    b.ellipse ⟨frame, d.width, d.height⟩ = b.projected frame d := by
  have hx : Viewport.scaleX ⟨frame, d.width, d.height⟩ = frame.w / d.width :=
    if_neg (not_le.mpr hwidth)
  have hy : Viewport.scaleY ⟨frame, d.width, d.height⟩ = frame.h / d.height :=
    if_neg (not_le.mpr hheight)
  simp only [ellipse, Viewport.projectX, Viewport.projectY, hx, hy]
  rfl

theorem radii_projected_pos (hwidth : 0 < d.width) (hheight : 0 < d.height) (hw : 1 ≤ frame.w)
    (hh : 1 ≤ frame.h) {b : Ball Rat} (hr : 0 < b.radius) :
    0 < (b.projected frame d).rx ∧ 0 < (b.projected frame d).ry := by
  have hw' : (0 : Rat) < frame.w := by exact_mod_cast hw
  have hh' : (0 : Rat) < frame.h := by exact_mod_cast hh
  exact ⟨mul_pos hr (div_pos hw' hwidth), mul_pos hr (div_pos hh' hheight)⟩

/-- Where the cells of a ball's ellipse are those that it covers, the ball paints what it covers. -/
theorem lastWrite_ballWrites_of_cells {s : Screen} {x y : Int} (hwidth : 0 < d.width)
    (hheight : 0 < d.height) {b : Ball Rat}
    (hcells : (x, y) ∈ (b.projected frame d).cells s.width s.height frame
      ↔ (b.projected frame d).Covers x y) :
    lastWrite (ballWrites s frame ⟨frame, d.width, d.height⟩ b) x y
      = if decide ((b.projected frame d).Covers x y) then some (b.paint frame d) else none := by
  rw [ballWrites, ellipse_eq_projected hwidth hheight, lastWrite_ellipseWrites]
  by_cases hcovers : (b.projected frame d).Covers x y
  · rw [if_pos (hcells.mpr hcovers), decide_eq_true hcovers, if_pos rfl]
    rfl
  · rw [if_neg (mt hcells.mp hcovers), decide_eq_false hcovers]
    rfl

/-- In its frame, which lies off the first row and column, a ball paints the cells that it
covers. -/
theorem lastWrite_ballWrites {s : Screen} {x y : Int} (hwidth : 0 < d.width)
    (hheight : 0 < d.height) (hw : 1 ≤ frame.w) (hh : 1 ≤ frame.h) (hfits : frame.EdgesFit)
    {b : Ball Rat} (hr : 0 < b.radius) (hon : s.onScreen x y = true) (hx : 1 ≤ x) (hy : 1 ≤ y)
    (hin : frame.Has x y) :
    lastWrite (ballWrites s frame ⟨frame, d.width, d.height⟩ b) x y
      = if decide ((b.projected frame d).Covers x y) then some (b.paint frame d) else none := by
  obtain ⟨hrx, hry⟩ := radii_projected_pos hwidth hheight hw hh hr
  have hcells := Ellipse.mem_cells_iff hfits hrx hry hon hx hy
  exact lastWrite_ballWrites_of_cells hwidth hheight (hcells.trans (and_iff_right hin))

end Ball

/-! ## The regions of the picture

The frame, the ring around it, the last row and the rest. Only the frame shows the balls, so the
other regions are read off for every scalar. -/

section Regions

variable {s : Screen} {frame : Rect}

theorem edgesFit_of_framedOn (hframe : frame.FramedOn s) :
    frame.EdgesFit ∧ (boxAround frame).EdgesFit := by
  obtain ⟨⟨hcolumns, hrows⟩, hwidth, hheight⟩ := hframe
  simp only [Screen.fieldArea, Rect.EdgesFit, boxAround, minWord, maxWord] at *
  omega

/-- The ring of one cell around a frame: its corners and sides, each with its character. -/
inductive Rect.Ring (frame : Rect) : Int → Int → Char → Prop where
  | topLeft : Ring frame (frame.x - 1) (frame.y - 1) '┌'
  | topRight : Ring frame (frame.x + frame.w) (frame.y - 1) '┐'
  | bottomLeft : Ring frame (frame.x - 1) (frame.y + frame.h) '└'
  | bottomRight : Ring frame (frame.x + frame.w) (frame.y + frame.h) '┘'
  | above {x : Int} : frame.x ≤ x → x < frame.x + frame.w → Ring frame x (frame.y - 1) '─'
  | below {x : Int} : frame.x ≤ x → x < frame.x + frame.w → Ring frame x (frame.y + frame.h) '─'
  | left {y : Int} : frame.y ≤ y → y < frame.y + frame.h → Ring frame (frame.x - 1) y '│'
  | right {y : Int} : frame.y ≤ y → y < frame.y + frame.h → Ring frame (frame.x + frame.w) y '│'

/-- The ring lies in the box and not in the frame. -/
theorem Rect.Ring.has_boxAround (hframe : frame.FramedOn s) {x y : Int} {c : Char}
    (h : frame.Ring x y c) : (boxAround frame).Has x y ∧ ¬ frame.Has x y := by
  have hw := hframe.columns.1
  have hh := hframe.rows.1
  cases h <;> simp only [Rect.Has, boxAround] <;> omega

theorem Rect.Ring.char_eq (hframe : frame.FramedOn s) {x y : Int} {c : Char}
    (h : frame.Ring x y c) : c = (boxAround frame).outlineChar x y := by
  have hw := hframe.columns.1
  have hh := hframe.rows.1
  cases h <;> grind [Rect.outlineChar, boxAround]

/-- What is in the box is in the frame or in the ring. -/
theorem exists_ring {x y : Int} (h : (boxAround frame).Has x y) (hout : ¬ frame.Has x y) :
    ∃ c, frame.Ring x y c := by
  simp only [Rect.Has, boxAround] at h hout
  have hcolumn : x = frame.x - 1 ∨ (frame.x ≤ x ∧ x < frame.x + frame.w)
      ∨ x = frame.x + frame.w := by
    omega
  have hrow : y = frame.y - 1 ∨ (frame.y ≤ y ∧ y < frame.y + frame.h)
      ∨ y = frame.y + frame.h := by
    omega
  -- Three columns times three rows of places; the frame is the middle one.
  rcases hcolumn with rfl | hcolumn | rfl
  · rcases hrow with rfl | hrow | rfl
    · exact ⟨_, .topLeft⟩
    · exact ⟨_, .left hrow.1 hrow.2⟩
    · exact ⟨_, .bottomLeft⟩
  · rcases hrow with rfl | hrow | rfl
    · exact ⟨_, .above hcolumn.1 hcolumn.2⟩
    · exact absurd ⟨hcolumn, hrow⟩ hout
    · exact ⟨_, .below hcolumn.1 hcolumn.2⟩
  · rcases hrow with rfl | hrow | rfl
    · exact ⟨_, .topRight⟩
    · exact ⟨_, .right hrow.1 hrow.2⟩
    · exact ⟨_, .bottomRight⟩

/-- The border of the box is the ring around the frame. -/
theorem border_boxAround (frame : Rect) (x y : Int) :
    (boxAround frame).Border x y ↔ (boxAround frame).Has x y ∧ ¬ frame.Has x y := by
  simp only [Rect.Border, Rect.Has, boxAround]
  omega

theorem has_boxAround {x y : Int} (h : frame.Has x y) : (boxAround frame).Has x y := by
  simp only [Rect.Has, boxAround] at h ⊢
  omega

/-- The box is on the screen, above the last row. -/
theorem onScreen_of_boxAround (hframe : frame.FramedOn s) {x y : Int}
    (h : (boxAround frame).Has x y) : s.onScreen x y = true ∧ y ≠ s.height - 1 := by
  obtain ⟨⟨hcolumns, hrows⟩, -, -⟩ := hframe
  rw [Screen.onScreen_iff]
  simp only [Screen.fieldArea, Rect.Has, boxAround] at *
  omega

variable {α : Type} [Scalar α]

/-- The frame of a domain lies between the box and the status line. -/
theorem framedOn_fitFrame {d : Domain α} (hw : leastWidth ≤ s.width)
    (hh : leastHeight ≤ s.height) (hwidth : (s.width : Int) ≤ maxWord)
    (hheight : (s.height : Int) ≤ maxWord) (hdw : ¬ d.width ≤ Scalar.zero)
    (hdh : ¬ d.height ≤ Scalar.zero) : (fitFrame s.fieldArea d).FramedOn s := by
  refine ⟨?_, hwidth, hheight⟩
  simp only [leastWidth, leastHeight, maxWord] at hw hh hwidth hheight
  refine fitFrame_filledIn ?_ ?_ ?_ ?_ ?_ hdw hdh <;>
    simp only [Screen.fieldArea, Rect.EdgesFit, minWord, maxWord] <;> omega

theorem render_eq_drawField (kind : BallKind) {b : BallShow α} {f : Field α}
    (hfield : b.field = some f) (hw : leastWidth ≤ s.width) (hh : leastHeight ≤ s.height) :
    b.render kind s = s.drawField kind.title f b.paused := by
  have hlarge : ¬ (s.width < leastWidth ∨ s.height < leastHeight) := by omega
  simp only [BallShow.render, Screen.drawShow, if_neg hlarge, hfield]

theorem render_eq_draw (kind : BallKind) {b : BallShow α} {f : Field α}
    (hfield : b.field = some f) (hw : leastWidth ≤ s.width) (hh : leastHeight ≤ s.height)
    (hwidth : (s.width : Int) ≤ maxWord) (hheight : (s.height : Int) ≤ maxWord) :
    b.render kind s
      = s.draw (pictureWrites s (fitFrame s.fieldArea f.domain) kind.title f b.paused) := by
  rw [render_eq_drawField kind hfield hw hh, drawField_eq_draw,
    fieldFrame_eq f.domain hw hh hwidth hheight]

variable {title : String} {f : Field α} {paused : Bool} {x y : Int}

omit [Scalar α] in
/-- What the status line says. -/
theorem statusLine_eq (title : String) (f : Field α) (paused : Bool) :
    statusLine title f paused
      = " " ++ title ++ "  tick " ++ toString f.tick.toNat ++ "  balls " ++ toString f.balls.length
        ++ if paused then "  [paused]" else "" := by
  rw [statusLine, Decimal.intText_natCast, Decimal.intText_natCast]

/-- Each cell of a cleared screen shows its layer that was drawn last. -/
theorem get_draw_pictureWrites (hon : s.onScreen x y = true) :
    (s.clear.draw (pictureWrites s.clear frame title f paused)).get x y
      = ((lastWrite (textWrites 0 (s.height - 1) (statusLine title f paused).toList Color.gray)
            x y).or
          ((lastWrite (f.balls.flatMap
              (ballWrites s.clear frame ⟨frame, f.domain.width, f.domain.height⟩)) x y).or
            (lastWrite (boxWrites s.clear (boxAround frame) Color.gray) x y))).getD Cell.blank := by
  have hblank : s.clear.get x y = Cell.blank := Screen.get_sized s.width s.height x y
  have hclear : s.clear.WellFormed := Screen.wellFormed_sized s.width s.height
  rw [Screen.get_draw hclear _ hon, hblank, pictureWrites, lastWrite_append, lastWrite_append]
  rfl

theorem lastWrite_statusLine_above (hrow : y ≠ s.height - 1) (chars : List Char) :
    lastWrite (textWrites 0 (s.height - 1) chars Color.gray) x y = none := by
  rw [lastWrite_textWrites, if_neg fun h => hrow h.1]

theorem lastWrite_boxAround (hframe : frame.FramedOn s) (hon : s.onScreen x y = true) :
    lastWrite (boxWrites s.clear (boxAround frame) Color.gray) x y
      = if (boxAround frame).Has x y ∧ ¬ frame.Has x y then
          some (Cell.ofChar ((boxAround frame).outlineChar x y) Color.gray) else none := by
  obtain ⟨-, hbox⟩ := edgesFit_of_framedOn hframe
  have hw : 2 ≤ (boxAround frame).w := by
    show 2 ≤ frame.w + 2
    have := hframe.columns.1
    omega
  have hh : 2 ≤ (boxAround frame).h := by
    show 2 ≤ frame.h + 2
    have := hframe.rows.1
    omega
  rw [lastWrite_boxWrites (s := s.clear) hbox hw hh hon]
  simp only [border_boxAround]

/-- Outside the frame the balls do not show: there is the box and the status line. -/
theorem get_picture_outside (hframe : frame.FramedOn s) (hon : s.onScreen x y = true)
    (hout : ¬ frame.Has x y) :
    (s.clear.draw (pictureWrites s.clear frame title f paused)).get x y
      = if (boxAround frame).Has x y then
          Cell.ofChar ((boxAround frame).outlineChar x y) Color.gray
        else if y = s.height - 1 then
          (((statusLine title f paused).toList[x.toNat]?).map (Cell.ofChar · Color.gray)).getD
            Cell.blank
        else Cell.blank := by
  obtain ⟨hfits, -⟩ := edgesFit_of_framedOn hframe
  have hclip : ¬ frame.contains x y = true := fun h => hout ((Rect.contains_iff hfits x y).mp h)
  have hballs := lastWrite_ballWrites_outside (s := s.clear)
    (v := ⟨frame, f.domain.width, f.domain.height⟩) hon hclip f.balls
  rw [get_draw_pictureWrites hon, hballs, Option.none_or, lastWrite_boxAround hframe hon]
  by_cases hbox : (boxAround frame).Has x y
  · rw [lastWrite_statusLine_above (onScreen_of_boxAround hframe hbox).2, if_pos ⟨hbox, hout⟩,
      if_pos hbox]
    rfl
  · rw [if_neg fun h => hbox h.1, if_neg hbox, Option.or_none]
    by_cases hrow : y = s.height - 1
    · have hx : 0 ≤ x := ((s.onScreen_iff x y).mp hon).1.1
      rw [lastWrite_textWrites, if_pos ⟨hrow, hx⟩, if_pos hrow, Int.sub_zero]
    · rw [lastWrite_statusLine_above hrow, if_neg hrow]
      rfl

end Regions

/-- In the frame the last ball that covers a cell shows. -/
theorem get_picture_inside {s : Screen} {frame : Rect} {title : String} {f : Field Rat}
    {paused : Bool} {x y : Int} (hframe : frame.FramedOn s) (hdw : 0 < f.domain.width)
    (hdh : 0 < f.domain.height) (hradius : ∀ ball ∈ f.balls, 0 < ball.radius)
    (hin : frame.Has x y) :
    (s.clear.draw (pictureWrites s.clear frame title f paused)).get x y
      = ((f.balls.reverse.find? fun ball => (ball.projected frame f.domain).Covers x y).map
          (Ball.paint frame f.domain)).getD Cell.blank := by
  obtain ⟨hfits, -⟩ := edgesFit_of_framedOn hframe
  obtain ⟨hon, hrow⟩ := onScreen_of_boxAround hframe (has_boxAround hin)
  -- The frame starts at column and row one, where truncation is exact.
  have hx : 1 ≤ x := le_trans hframe.columns.2.1 hin.1.1
  have hy : 1 ≤ y := le_trans hframe.rows.2.1 hin.2.1
  have hballs := lastWrite_flatMap fun ball (hball : ball ∈ f.balls) =>
    Ball.lastWrite_ballWrites (s := s.clear) hdw hdh hframe.columns.1 hframe.rows.1 hfits
      (hradius ball hball) hon hx hy hin
  rw [get_draw_pictureWrites hon, lastWrite_statusLine_above hrow, hballs,
    lastWrite_boxAround hframe hon, if_neg fun h => h.2 hin, Option.none_or, Option.or_none]

/-- **The picture of a field.** On a cleared screen that is large enough, every cell is known after
drawing. The frame has cells, and it is on the screen with the ring around it, above the last row. A
cell of the frame shows the last ball that covers it, or nothing; the ring shows its corners and
sides; the last row shows as much of the status line as it has cells, and blanks after it;
everything else is blank. The status line tells the title, the tick, the number of balls and whether
the show is paused. The sides of a screen are words. -/
theorem BallShow.render_shows_field (kind : BallKind) {b : BallShow Rat} {f : Field Rat}
    (hfield : b.field = some f) (hdw : 0 < f.domain.width) (hdh : 0 < f.domain.height)
    (hradius : ∀ ball ∈ f.balls, 0 < ball.radius) {s : Screen} (hw : 12 ≤ s.width)
    (hh : 6 ≤ s.height) (hwidth : (s.width : Int) ≤ maxWord)
    (hheight : (s.height : Int) ≤ maxWord) :
    let frame := fitFrame ⟨1, 1, s.width - 2, s.height - 3⟩ f.domain
    let status := " " ++ kind.title ++ "  tick " ++ toString f.tick.toNat
      ++ "  balls " ++ toString f.balls.length ++ if b.paused then "  [paused]" else ""
    let shown := b.render kind s.clear
    (shown.width = s.width ∧ shown.height = s.height)
      ∧ (1 ≤ frame.w ∧ 1 ≤ frame.h
        ∧ ∀ x y, frame.Has x y ∨ (∃ c, frame.Ring x y c) →
          s.onScreen x y = true ∧ y ≠ s.height - 1)
      ∧ ∀ x y, s.onScreen x y = true →
        (frame.Has x y → shown.get x y
          = ((f.balls.reverse.find? fun ball =>
              (ball.projected frame f.domain).Covers x y).map
                (Ball.paint frame f.domain)).getD Cell.blank)
        ∧ (∀ c, frame.Ring x y c → shown.get x y = Cell.ofChar c Color.gray)
        ∧ (y = s.height - 1 → shown.get x y
          = ((status.toList[x.toNat]?).map (Cell.ofChar · Color.gray)).getD Cell.blank)
        ∧ (¬ frame.Has x y → (¬ ∃ c, frame.Ring x y c) → y ≠ s.height - 1 →
          shown.get x y = Cell.blank) := by
  intro frame status shown
  have hframe : frame.FramedOn s :=
    framedOn_fitFrame hw hh hwidth hheight (not_le.mpr hdw) (not_le.mpr hdh)
  have hshown : shown = s.clear.draw (pictureWrites s.clear frame kind.title f b.paused) :=
    render_eq_draw (s := s.clear) kind hfield hw hh hwidth hheight
  have hstatus : statusLine kind.title f b.paused = status := statusLine_eq _ f _
  rw [hshown]
  refine ⟨⟨Screen.width_draw _ _, Screen.height_draw _ _⟩,
    ⟨hframe.columns.1, hframe.rows.1, ?_⟩, ?_⟩
  · rintro x y (hin | ⟨c, hring⟩)
    · exact onScreen_of_boxAround hframe (has_boxAround hin)
    · exact onScreen_of_boxAround hframe (hring.has_boxAround hframe).1
  intro x y hon
  refine ⟨get_picture_inside hframe hdw hdh hradius, ?_, ?_, ?_⟩
  · intro c hring
    obtain ⟨hbox, hout⟩ := hring.has_boxAround hframe
    rw [get_picture_outside hframe hon hout, if_pos hbox, hring.char_eq hframe]
  · intro hrow
    have hbox : ¬ (boxAround frame).Has x y :=
      fun hbox => (onScreen_of_boxAround hframe hbox).2 hrow
    rw [get_picture_outside hframe hon fun hin => hbox (has_boxAround hin),
      if_neg hbox, if_pos hrow, hstatus]
  · intro hout hring hrow
    have hbox : ¬ (boxAround frame).Has x y := fun hbox => hring (exists_ring hbox hout)
    rw [get_picture_outside hframe hon hout, if_neg hbox, if_neg hrow]

/-- Three balls: one that has run past the left wall, and two that overlap. -/
def crowdedField : Field Rat :=
  { domain := ⟨20, 10⟩
    balls :=
      [⟨0, ⟨-1, 0⟩, ⟨5, 0⟩, 2, Color.gray⟩, ⟨1, ⟨5, 0⟩, ⟨5, 0⟩, 3, Color.orange⟩,
        ⟨2, ⟨7, 0⟩, ⟨5, 0⟩, 2, Color.white⟩]
    tick := 0 }

/-- On 22 columns and 13 rows the frame has 20 columns from column 1 on, and 5 rows from row 3 on.
The white ball hides the orange one where they overlap, the runaway shows in the first column, and
the ring beside it is whole. The row above the ring is blank, and the last row begins with the
title. -/
theorem BallShow.render_shows_field_crowded :
    let shown := (BallShow.start Settings.zero crowdedField).render .many (Screen.sized 22 13).clear
    (∀ ball ∈ crowdedField.balls, 0 < ball.radius)
      ∧ shown.get 6 5 = Cell.ofChar '█' Color.white ∧ shown.get 4 5 = Cell.ofChar '█' Color.orange
      ∧ shown.get 1 5 = Cell.ofChar '█' Color.gray ∧ shown.get 12 5 = Cell.blank
      ∧ shown.get 0 5 = Cell.ofChar '│' Color.gray ∧ shown.get 21 8 = Cell.ofChar '┘' Color.gray
      ∧ shown.get 1 12 = Cell.ofChar 'M' Color.gray ∧ shown.get 5 1 = Cell.blank := by
  have hradius : ∀ ball ∈ crowdedField.balls, 0 < ball.radius := by decide +kernel
  obtain ⟨-, -, hcells⟩ := BallShow.render_shows_field .many
    (b := BallShow.start Settings.zero crowdedField) rfl (by decide +kernel) (by decide +kernel)
    hradius (s := Screen.sized 22 13) (by decide) (by decide) (by decide) (by decide)
  have hframe : fitFrame ⟨1, 1, 20, 10⟩ crowdedField.domain = ⟨1, 3, 20, 5⟩ := by decide +kernel
  have hside : (fitFrame ⟨1, 1, 20, 10⟩ crowdedField.domain).Ring 0 5 '│' := by
    rw [hframe]
    exact .left (by decide) (by decide)
  have hcorner : (fitFrame ⟨1, 1, 20, 10⟩ crowdedField.domain).Ring 21 8 '┘' := by
    rw [hframe]
    exact .bottomRight
  have hnone : ¬ ∃ c, (fitFrame ⟨1, 1, 20, 10⟩ crowdedField.domain).Ring 5 1 c := by
    rw [hframe]
    rintro ⟨c, hring⟩
    cases hring
  exact ⟨hradius, ((hcells 6 5 rfl).1 (by decide +kernel)).trans (by decide +kernel),
    ((hcells 4 5 rfl).1 (by decide +kernel)).trans (by decide +kernel),
    ((hcells 1 5 rfl).1 (by decide +kernel)).trans (by decide +kernel),
    ((hcells 12 5 rfl).1 (by decide +kernel)).trans (by decide +kernel),
    (hcells 0 5 rfl).2.1 _ hside, (hcells 21 8 rfl).2.1 _ hcorner,
    ((hcells 1 12 rfl).2.2.1 (by decide +kernel)).trans (by decide +kernel),
    (hcells 5 1 rfl).2.2.2 (by decide +kernel) hnone (by decide +kernel)⟩

end Ricochet
