import Ricochet.Geometry.Rect
import Ricochet.Numeric.Scalar

set_option autoImplicit false

/-! # Viewports

A viewport maps a continuous area of size `width × height`, with the origin at the bottom left and
`y` growing upward, onto a rectangle of cells, with the origin at the top left and rows growing
downward. `projectX` and `projectY` give fractional cell coordinates, `cellX` and `cellY` the cell
that holds them, moved into the rectangle when the point lies outside.
-/

namespace Ricochet

variable {α : Type}

/-- The rectangle of cells that shows an area of the given size. -/
structure Viewport (α : Type) where
  cells : Rect
  width : α
  height : α

namespace Viewport

variable [Scalar α]

/-- Cells per unit along one axis; none for an area without extent. -/
def cellsPerUnit (cells : Int) (extent : α) : α :=
  if extent ≤ Scalar.zero then Scalar.zero else Scalar.ofInt cells / extent

/-- Cells per unit along `x`. -/
def scaleX (v : Viewport α) : α := cellsPerUnit v.cells.w v.width

/-- Cells per unit along `y`. -/
def scaleY (v : Viewport α) : α := cellsPerUnit v.cells.h v.height

/-- The fractional column of a point. -/
def projectX (v : Viewport α) (x : α) : α := Scalar.ofInt v.cells.x + x * v.scaleX

/-- The fractional row of a point. -/
def projectY (v : Viewport α) (y : α) : α := Scalar.ofInt v.cells.y + (v.height - y) * v.scaleY

/-- The column that holds a point, moved into the rectangle. -/
def cellX (v : Viewport α) (x : α) : Int :=
  clamp (Scalar.floorInt (v.projectX x)) v.cells.x (max v.cells.x (wrap64 (v.cells.right - 1)))

/-- The row that holds a point, moved into the rectangle. -/
def cellY (v : Viewport α) (y : α) : Int :=
  clamp (Scalar.floorInt (v.projectY y)) v.cells.y (max v.cells.y (wrap64 (v.cells.bottom - 1)))

/-- The cell that holds a point. Points on or past the far edges get the last row or column. -/
def toCell (v : Viewport α) (x y : α) : Int × Int := (v.cellX x, v.cellY y)

end Viewport

end Ricochet
