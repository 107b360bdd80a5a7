import Ricochet.Proofs.FiniteFields
import Ricochet.Proofs.Picture

set_option autoImplicit false

/-! # Balls leave the border alone

The frame of a field comes out of binary64 arithmetic, and so do the cells of its balls, which may
be anywhere and may not even have numbers for positions. None of this can reach the box or the
status line. The sides of the frame are clamped to the area between them whatever they come out as
(`fitFrame_filledIn`), and both ways in which a ball writes a cell ask first whether it is in the
frame (`Screen.get_drawBalls_outside`). So outside the frame a picture is what is drawn without any
balls (`Screen.drawBorder`), and that is known cell by cell (`Screen.get_drawBorder`).

No property of the conversion from binary64 to integers is used: `Scalar.converting` leaves it open.
-/

namespace Ricochet

/-! ## Any scalar -/

section AnyScalar

variable {α : Type} [Scalar α] {s : Screen}

namespace Screen

/-- The picture of a field without its balls: the box and the status line. -/
def drawBorder (s : Screen) (title : String) (f : Field α) (paused : Bool) : Screen :=
  (s.drawBox (boxAround (fieldFrame s f.domain)) Color.gray).drawText 0 (s.height - 1)
    (statusLine title f paused).toList Color.gray

/-- Balls change no cell outside the rectangle that they are drawn in. -/
theorem get_drawBalls_outside (hs : s.WellFormed) {r : Rect} {x y : Int}
    (hout : ¬ r.contains x y = true) (d : Domain α) (balls : List (Ball α)) :
    (s.drawBalls r d balls).get x y = s.get x y := by
  by_cases hon : s.onScreen x y = true
  · rw [drawBalls, get_draw hs _ hon, lastWrite_ballWrites_outside hon hout]
    rfl
  · exact get_draw_of_not_onScreen _ hon

theorem drawBorder_eq_draw (title : String) (f : Field α) (paused : Bool) :
    s.drawBorder title f paused
      = s.draw (boxWrites s (boxAround (fieldFrame s f.domain)) Color.gray
        ++ textWrites 0 (s.height - 1) (statusLine title f paused).toList Color.gray) := by
  simp only [drawBorder, drawText, drawBox, draw, List.foldl_append]

/-- What the box and the status line show. -/
theorem get_drawBorder (hs : s.WellFormed) {title : String} {f : Field α} {paused : Bool}
    (hframe : (fieldFrame s f.domain).FramedOn s) {x y : Int} (hon : s.onScreen x y = true) :
    (s.drawBorder title f paused).get x y
      = if (boxAround (fieldFrame s f.domain)).Has x y ∧ ¬ (fieldFrame s f.domain).Has x y then
          Cell.ofChar ((boxAround (fieldFrame s f.domain)).outlineChar x y) Color.gray
        else if y = s.height - 1 then
          (((statusLine title f paused).toList[x.toNat]?).map (Cell.ofChar · Color.gray)).getD
            (s.get x y)
        else s.get x y := by
  have hx : 0 ≤ x := ((s.onScreen_iff x y).mp hon).1.1
  have hbox : lastWrite (boxWrites s (boxAround (fieldFrame s f.domain)) Color.gray) x y
      = if (boxAround (fieldFrame s f.domain)).Has x y ∧ ¬ (fieldFrame s f.domain).Has x y then
          some (Cell.ofChar ((boxAround (fieldFrame s f.domain)).outlineChar x y) Color.gray)
        else none := lastWrite_boxAround hframe hon
  rw [drawBorder_eq_draw, get_draw hs _ hon, lastWrite_append, hbox]
  by_cases hring : (boxAround (fieldFrame s f.domain)).Has x y ∧ ¬ (fieldFrame s f.domain).Has x y
  · have habove := (onScreen_of_boxAround hframe hring.1).2
    rw [lastWrite_statusLine_above habove, if_pos hring, if_pos hring]
    rfl
  · rw [if_neg hring, if_neg hring, Option.or_none]
    by_cases hrow : y = s.height - 1
    · rw [lastWrite_textWrites, if_pos ⟨hrow, hx⟩, if_pos hrow, Int.sub_zero]
    · rw [lastWrite_statusLine_above hrow, if_neg hrow]
      rfl

/-- Outside its frame, a picture is its border. -/
theorem get_drawField_outside (hs : s.WellFormed) {title : String} {f : Field α} {paused : Bool}
    {x y : Int} (hout : ¬ (fieldFrame s f.domain).contains x y = true) :
    (s.drawField title f paused).get x y = (s.drawBorder title f paused).get x y := by
  rw [drawField_eq_draw, drawBorder_eq_draw]
  by_cases hon : s.onScreen x y = true
  · rw [get_draw hs _ hon, get_draw hs _ hon, pictureWrites, lastWrite_append, lastWrite_append,
      lastWrite_append, lastWrite_ballWrites_outside hon hout, Option.none_or]
  · rw [get_draw_of_not_onScreen _ hon, get_draw_of_not_onScreen _ hon]

end Screen

/-- The frame of a field on a screen that is large enough. -/
theorem framedOn_fieldFrame {d : Domain α} (hw : leastWidth ≤ s.width) (hh : leastHeight ≤ s.height)
    (hwidth : (s.width : Int) ≤ maxWord) (hheight : (s.height : Int) ≤ maxWord)
    (hdw : ¬ d.width ≤ Scalar.zero) (hdh : ¬ d.height ≤ Scalar.zero) :
    (fieldFrame s d).FramedOn s := by
  rw [fieldFrame_eq d hw hh hwidth hheight]
  exact framedOn_fitFrame hw hh hwidth hheight hdw hdh

end AnyScalar

/-! ## Binary64 numbers with any conversion -/

/-- Binary64 arithmetic in which the conversion to integers is left open. -/
@[reducible] def Scalar.converting (toInt : Float → Int) : Scalar Float :=
  { (inferInstance : Scalar Float) with truncInt := toInt }

/-- A positive side is not taken for an empty one. -/
theorem Binary64.not_le_zero_of_pos {x : Float} (h : 0 < x) : ¬ x ≤ 0 := by
  rcases cases_of_lt (by decide) h with hfinite | hinfinite
  · rw [lt_iff_value (by decide) hfinite] at h
    rw [le_iff_value hfinite (by decide)]
    exact not_le.mpr h
  · have hzero : (0 : Float).isFinite = true := by decide
    rw [le_iff_compare, hinfinite, compare_positive_infinity (canonical_of_isFinite hzero).1]
    decide

theorem converting_zero (toInt : Float → Int) :
    @Scalar.zero Float (Scalar.converting toInt) = 0 := Binary64.scalar_zero_eq

/-- **Balls never damage the border.** Take a demo with a field whose domain has positive sides; its
balls may have any binary64 numbers, infinite ones and those that are no numbers included. Let the
conversion to integers be any function, and take a screen that is large enough, whatever it shows.

* The frame has cells, and all of them are in columns `1 … width - 2` and rows `1 … height - 3`.
* On any screen and in any rectangle, balls change no cell outside the rectangle.
* Outside the frame, the picture is the same as without the balls.
* There it shows the whole ring around the frame, which is on the screen and above the last row, the
  status line on the last row as far as it has cells, and for the rest what was there before. The
  status line tells the title, the tick, the number of balls and whether the show is paused. -/
theorem BallShow.balls_keep_border (toInt : Float → Int) (kind : BallKind) {b : BallShow Float}
    {f : Field Float} (hfield : b.field = some f) (hdw : 0 < f.domain.width)
    (hdh : 0 < f.domain.height) {s : Screen} (hs : s.WellFormed) (hw : 12 ≤ s.width)
    (hh : 6 ≤ s.height) (hwidth : (s.width : Int) ≤ maxWord)
    (hheight : (s.height : Int) ≤ maxWord) :
    letI := Scalar.converting toInt
    let frame := fieldFrame s f.domain
    let status := " " ++ kind.title ++ "  tick " ++ toString f.tick.toNat
      ++ "  balls " ++ toString f.balls.length ++ if b.paused then "  [paused]" else ""
    let shown := b.render kind s
    ((1 ≤ frame.w ∧ 1 ≤ frame.x ∧ frame.x + frame.w ≤ s.width - 1)
      ∧ 1 ≤ frame.h ∧ 1 ≤ frame.y ∧ frame.y + frame.h ≤ s.height - 2)
    ∧ (∀ (t : Screen) (r : Rect) (d : Domain Float) (balls : List (Ball Float)) (x y : Int),
        t.WellFormed → ¬ r.contains x y = true → (t.drawBalls r d balls).get x y = t.get x y)
    ∧ (shown.width = s.width ∧ shown.height = s.height)
    ∧ (∀ x y, ¬ frame.Has x y →
        shown.get x y = (s.drawBorder kind.title f b.paused).get x y)
    ∧ (∀ x y c, frame.Ring x y c →
        (s.onScreen x y = true ∧ y ≠ s.height - 1) ∧ shown.get x y = Cell.ofChar c Color.gray)
    ∧ (∀ x : Int, 0 ≤ x ∧ x < s.width → shown.get x (s.height - 1)
        = ((status.toList[x.toNat]?).map (Cell.ofChar · Color.gray)).getD
          (s.get x (s.height - 1)))
    ∧ ∀ x y, ¬ frame.Has x y → (¬ ∃ c, frame.Ring x y c) → y ≠ s.height - 1 →
        shown.get x y = s.get x y := by
  let _ := Scalar.converting toInt
  intro frame status shown
  have hsides : ¬ f.domain.width ≤ Scalar.zero ∧ ¬ f.domain.height ≤ Scalar.zero := by
    rw [converting_zero]
    exact ⟨Binary64.not_le_zero_of_pos hdw, Binary64.not_le_zero_of_pos hdh⟩
  have hframe : frame.FramedOn s := framedOn_fieldFrame hw hh hwidth hheight hsides.1 hsides.2
  have hshown : shown = s.drawField kind.title f b.paused := render_eq_drawField kind hfield hw hh
  have houtside : ∀ x y, ¬ frame.Has x y →
      shown.get x y = (s.drawBorder kind.title f b.paused).get x y := by
    intro x y hout
    rw [hshown]
    apply Screen.get_drawField_outside hs
    rwa [Rect.contains_iff (edgesFit_of_framedOn hframe).1]
  obtain ⟨hcolumns, hrows⟩ := hframe.toFilledIn
  simp only [Screen.fieldArea] at hcolumns hrows
  refine ⟨⟨by omega, by omega⟩, fun t r d balls x y ht hout => ?_, ?_, houtside, ?_, ?_, ?_⟩
  · exact Screen.get_drawBalls_outside ht hout d balls
  · rw [hshown, drawField_eq_draw]
    exact ⟨Screen.width_draw _ _, Screen.height_draw _ _⟩
  · intro x y c hring
    obtain ⟨hbox, hout⟩ := hring.has_boxAround hframe
    have hon := onScreen_of_boxAround hframe hbox
    rw [houtside x y hout, Screen.get_drawBorder hs hframe hon.1, if_pos ⟨hbox, hout⟩,
      hring.char_eq hframe]
    exact ⟨hon, rfl⟩
  · intro x hx
    have hlow : ¬ (boxAround frame).Has x (s.height - 1) := fun hbox =>
      (onScreen_of_boxAround hframe hbox).2 rfl
    have hon : s.onScreen x (s.height - 1) = true := by
      rw [Screen.onScreen_iff]
      omega
    rw [houtside x _ fun hin => hlow (has_boxAround hin), Screen.get_drawBorder hs hframe hon,
      if_neg fun h => hlow h.1, if_pos rfl, statusLine_eq]
  · intro x y hout hring hrow
    rw [houtside x y hout]
    by_cases hon : s.onScreen x y = true
    · rw [Screen.get_drawBorder hs hframe hon, if_neg fun h => hring (exists_ring h.1 h.2),
        if_neg hrow]
    · rw [Screen.drawBorder_eq_draw, Screen.get_draw_of_not_onScreen _ hon]

/-- A ball whose position is no number, and one that is infinitely large and far away. -/
def wildField : Field Float :=
  { domain := ⟨10, 10⟩
    balls :=
      [⟨0, ⟨0 / 0, 0⟩, ⟨5, 0⟩, 1, Color.orange⟩, ⟨1, ⟨1e300, 0⟩, ⟨-1e300, 0⟩, 1 / 0, Color.white⟩]
    tick := 0 }

/-- Where every conversion gives three, the frame has its first column at four, and both balls are
looked for in the cell to the left of it. There the box is whole. -/
theorem BallShow.balls_keep_border_wild :
    letI := Scalar.converting fun _ => 3
    let shown := (BallShow.start Settings.zero wildField).render .single (Screen.sized 12 6)
    (0 < wildField.domain.width ∧ 0 < wildField.domain.height)
    ∧ fieldFrame (Screen.sized 12 6) wildField.domain = ⟨4, 1, 3, 3⟩
    ∧ shown.get 3 3 = Cell.ofChar '│' Color.gray ∧ shown.get 1 5 = Cell.ofChar 'B' Color.gray
    ∧ shown.get 0 0 = Cell.blank := by
  let _ := Scalar.converting fun _ => 3
  intro shown
  have hsides : 0 < wildField.domain.width ∧ 0 < wildField.domain.height := by decide +kernel
  obtain ⟨-, -, -, -, hring, hstatus, hrest⟩ := BallShow.balls_keep_border (fun _ => 3) .single
    (b := BallShow.start Settings.zero wildField) rfl hsides.1 hsides.2
    (Screen.wellFormed_sized 12 6) (by decide) (by decide) (by decide) (by decide)
  have hframe : fieldFrame (Screen.sized 12 6) wildField.domain = ⟨4, 1, 3, 3⟩ := by decide +kernel
  rw [hframe] at hring hrest
  refine ⟨hsides, hframe, ?_, ?_, ?_⟩
  · exact (hring 3 3 '│' (.left (by decide) (by decide))).2
  · exact (hstatus 1 (by decide)).trans (by decide +kernel)
  · refine (hrest 0 0 (by decide) ?_ (by decide)).trans (by decide +kernel)
    rintro ⟨c, hbeside⟩
    cases hbeside with
    | above hcolumn => exact absurd hcolumn (by decide)

end Ricochet
