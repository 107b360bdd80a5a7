import Ricochet.Geometry.Viewport
import Ricochet.Field.Ball

set_option autoImplicit false

/-! # Fitting a domain into an area of cells

The frame of a field is the largest rectangle in an area of cells that keeps the proportions of the
domain, centred. A cell is twice as high as it is wide.
-/

namespace Ricochet

variable {α : Type} [Scalar α]

/-- How many times higher than wide a cell is. -/
def cellAspect : α := Scalar.ofInt 2

/-- Columns per unit, limited by both sides of the area. -/
def frameScale (area : Rect) (d : Domain α) : α :=
  Scalar.lesser (Scalar.ofInt area.w / d.width) (Scalar.ofInt area.h * cellAspect / d.height)

/-- Half of the cells left over on one axis, rounded toward zero. -/
def margin (outer inner : Int) : Int := (outer - inner).tdiv 2

/-- The largest centred frame. An area without cells, or a domain with a side that is not positive,
has an empty frame at the corner of the area. -/
def fitFrame (area : Rect) (d : Domain α) : Rect :=
  if area.w ≤ 0 ∨ area.h ≤ 0 ∨ d.width ≤ Scalar.zero ∨ d.height ≤ Scalar.zero then
    ⟨area.x, area.y, 0, 0⟩
  else
    let scale := frameScale area d
    let w := clamp (Scalar.truncInt (d.width * scale)) 1 area.w
    let h := clamp (Scalar.truncInt (d.height * scale / cellAspect)) 1 area.h
    ⟨wrap64 (area.x + margin area.w w), wrap64 (area.y + margin area.h h), w, h⟩

end Ricochet
