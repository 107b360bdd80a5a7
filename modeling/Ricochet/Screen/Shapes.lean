import Ricochet.Numeric.Scalar
import Ricochet.Screen.Basic

set_option autoImplicit false

/-! # Text, boxes and ellipses

Each shape is the list of writes that draws it. Rows and columns that lie off the screen are left
out of the lists, since writes there have no effect.
-/

namespace Ricochet

/-- The integers from `lo` up to, and without, `hi`. -/
def span (lo hi : Int) : List Int :=
  (List.range (hi - lo).toNat).map fun (i : Nat) => lo + i

/-- Characters side by side from `(x, y)` to the right. -/
def textWrites (x y : Int) (chars : List Char) (color : Color) : List Write :=
  chars.zipIdx.map fun (c, i) => ⟨x + i, y, Cell.ofChar c color⟩

/-- The four corners of an outline. -/
def cornerWrites (r : Rect) (color : Color) : List Write :=
  let right := r.right - 1
  let bottom := r.bottom - 1
  [⟨r.x, r.y, Cell.ofChar '┌' color⟩, ⟨right, r.y, Cell.ofChar '┐' color⟩,
    ⟨r.x, bottom, Cell.ofChar '└' color⟩, ⟨right, bottom, Cell.ofChar '┘' color⟩]

/-- The upper and lower edges of an outline, without the corners. -/
def horizontalWrites (width : Nat) (r : Rect) (color : Color) : List Write :=
  (span (max 0 (r.x + 1)) (min width (r.right - 1))).flatMap fun x =>
    [⟨x, r.y, Cell.ofChar '─' color⟩, ⟨x, r.bottom - 1, Cell.ofChar '─' color⟩]

/-- The left and right edges of an outline, without the corners. -/
def verticalWrites (height : Nat) (r : Rect) (color : Color) : List Write :=
  (span (max 0 (r.y + 1)) (min height (r.bottom - 1))).flatMap fun y =>
    [⟨r.x, y, Cell.ofChar '│' color⟩, ⟨r.right - 1, y, Cell.ofChar '│' color⟩]

/-- The outline of a rectangle; a side of fewer than two cells has none. -/
def boxWrites (s : Screen) (r : Rect) (color : Color) : List Write :=
  if r.w < 2 ∨ r.h < 2 then []
  else cornerWrites r color ++ horizontalWrites s.width r color ++ verticalWrites s.height r color

section Ellipse

variable {α : Type} [Scalar α]

/-- An ellipse with centre `(cx, cy)` and radii `rx`, `ry`, in cells. -/
structure Ellipse (α : Type) where
  cx : α
  cy : α
  rx : α
  ry : α

/-- How far the middle of cell `i` is from `centre`, in radii. -/
def cellOffset (i : Int) (centre radius : α) : α :=
  (Scalar.ofInt i + Scalar.half - centre) / radius

/-- Whether the middle of the cell `(x, y)` lies in the ellipse. -/
def Ellipse.covers (e : Ellipse α) (x y : Int) : Bool :=
  let dx := cellOffset x e.cx e.rx
  let dy := cellOffset y e.cy e.ry
  decide (dx * dx + dy * dy ≤ Scalar.ofInt 1)

/-- The cells of the clip whose middles lie in the ellipse, row by row, and last the cell of the
centre if it is in the clip. Only the square around the ellipse is searched. -/
def Ellipse.cells (e : Ellipse α) (width height : Nat) (clip : Rect) : List (Int × Int) :=
  let rows := span (max 0 (Scalar.truncInt (e.cy - e.ry)))
    (min height (Scalar.truncInt (e.cy + e.ry) + 1))
  let columns := span (max 0 (Scalar.truncInt (e.cx - e.rx)))
    (min width (Scalar.truncInt (e.cx + e.rx) + 1))
  let covered := rows.flatMap fun y =>
    (columns.filter fun x => clip.contains x y && e.covers x y).map fun x => (x, y)
  let centre := (Scalar.truncInt e.cx, Scalar.truncInt e.cy)
  covered ++ if clip.contains centre.1 centre.2 then [centre] else []

/-- A filled ellipse, clipped. -/
def ellipseWrites (s : Screen) (e : Ellipse α) (clip : Rect) (cell : Cell) : List Write :=
  (e.cells s.width s.height clip).map fun (x, y) => ⟨x, y, cell⟩

end Ellipse

namespace Screen

/-- Draws characters from `(x, y)` to the right. -/
def drawText (s : Screen) (x y : Int) (chars : List Char) (color : Color) : Screen :=
  s.draw (textWrites x y chars color)

/-- Draws the outline of a rectangle. -/
def drawBox (s : Screen) (r : Rect) (color : Color) : Screen :=
  s.draw (boxWrites s r color)

/-- Fills an ellipse. -/
def fillEllipse {α : Type} [Scalar α] (s : Screen) (e : Ellipse α) (clip : Rect) (cell : Cell) :
    Screen :=
  s.draw (ellipseWrites s e clip cell)

end Screen

end Ricochet
