import Ricochet.Numeric.Word

set_option autoImplicit false

/-! # Rectangles of cells

A rectangle has a top-left corner and a size. Its far edges are 64-bit words; a rectangle whose
edges fit into a word has the plain sums as edges (`right_of_fits`, `bottom_of_fits`).
-/

namespace Ricochet

/-- An axis-aligned rectangle of cells: corner `(x, y)`, width `w` and height `h`. -/
structure Rect where
  x : Int
  y : Int
  w : Int
  h : Int
  deriving DecidableEq, Repr

namespace Rect

/-- The first column to the right of the rectangle. -/
def right (r : Rect) : Int := wrap64 (r.x + r.w)

/-- The first row below the rectangle. -/
def bottom (r : Rect) : Int := wrap64 (r.y + r.h)

/-- Whether the cell `(px, py)` is in the rectangle. -/
def contains (r : Rect) (px py : Int) : Bool :=
  decide (r.x ≤ px ∧ px < r.right ∧ r.y ≤ py ∧ py < r.bottom)

/-- The rectangle with `n` cells taken off each side. A side that has fewer than `2 n` cells
vanishes; a negative `n` makes the rectangle larger. -/
def inset (r : Rect) (n : Int) : Rect :=
  { x := wrap64 (r.x + n)
    y := wrap64 (r.y + n)
    w := max 0 (wrap64 (r.w - 2 * n))
    h := max 0 (wrap64 (r.h - 2 * n)) }

theorem right_of_fits (r : Rect) (lo : minWord ≤ r.x + r.w) (hi : r.x + r.w ≤ maxWord) :
    r.right = r.x + r.w := wrap64_of_mem lo hi

theorem bottom_of_fits (r : Rect) (lo : minWord ≤ r.y + r.h) (hi : r.y + r.h ≤ maxWord) :
    r.bottom = r.y + r.h := wrap64_of_mem lo hi

end Rect

end Ricochet
