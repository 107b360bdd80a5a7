import Ricochet.Demo.Frame
import Ricochet.Screen.Shapes
import Ricochet.Field.Basic

set_option autoImplicit false

/-! # Drawing a field

A field is drawn in a frame with a box around it, and a status line stands on the last row. Each
ball is an ellipse of cells, clipped to the frame; later balls cover earlier ones.
-/

namespace Ricochet

variable {α : Type} [Scalar α]

/-- What fills a ball of at least one cell in each direction. -/
def ballFill : Char := '█'

/-- What shows a smaller ball. -/
def ballDot : Char := '●'

/-- The ellipse of cells that shows a ball. -/
def Ball.ellipse (v : Viewport α) (b : Ball α) : Ellipse α :=
  { cx := v.projectX b.x.pos, cy := v.projectY b.y.pos,
    rx := b.radius * v.scaleX, ry := b.radius * v.scaleY }

/-- The character that shows an ellipse. -/
def Ellipse.glyph (e : Ellipse α) : Char :=
  if e.rx < Scalar.ofInt 1 ∨ e.ry < Scalar.ofInt 1 then ballDot else ballFill

/-- The writes that draw one ball. -/
def ballWrites (s : Screen) (frame : Rect) (v : Viewport α) (b : Ball α) : List Write :=
  let e := b.ellipse v
  ellipseWrites s e frame (Cell.ofChar e.glyph b.color)

/-- Draws balls in order, clipped to the frame. -/
def Screen.drawBalls (s : Screen) (frame : Rect) (d : Domain α) (balls : List (Ball α)) : Screen :=
  let v : Viewport α := ⟨frame, d.width, d.height⟩
  s.draw (balls.flatMap (ballWrites s frame v))

/-- The narrowest screen on which a field is drawn. -/
def leastWidth : Nat := 12

/-- The lowest screen on which a field is drawn. -/
def leastHeight : Nat := 6

/-- The frame of a field on a screen: one cell is left for the box and the last row for the status
line. -/
def fieldFrame (s : Screen) (d : Domain α) : Rect :=
  fitFrame (Rect.inset ⟨0, 0, s.width, s.height - 1⟩ 1) d

/-- The box around a frame. -/
def boxAround (frame : Rect) : Rect := ⟨frame.x - 1, frame.y - 1, frame.w + 2, frame.h + 2⟩

/-- The status line of a field. -/
def statusLine (title : String) (f : Field α) (paused : Bool) : String :=
  " " ++ title ++ "  tick " ++ Decimal.intText f.tick.toNat ++ "  balls "
    ++ Decimal.intText f.balls.length ++ if paused then "  [paused]" else ""

/-- Draws a field with its box and its status line. -/
def Screen.drawField (s : Screen) (title : String) (f : Field α) (paused : Bool) : Screen :=
  let frame := fieldFrame s f.domain
  let boxed := s.drawBox (boxAround frame) Color.gray
  let filled := boxed.drawBalls frame f.domain f.balls
  filled.drawText 0 (s.height - 1) (statusLine title f paused).toList Color.gray

/-- Draws what there is to show: a field if there is one, on a screen that is large enough. -/
def Screen.drawShow (s : Screen) (title : String) (f : Option (Field α)) (paused : Bool) : Screen :=
  if s.width < leastWidth ∨ s.height < leastHeight then
    s.drawText 0 0 "Terminal too small".toList Color.default
  else
    match f with
    | none => s.drawText 0 0 "Not started".toList Color.default
    | some f => s.drawField title f paused

end Ricochet
