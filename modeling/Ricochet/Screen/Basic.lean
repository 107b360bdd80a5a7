import Ricochet.Color.Basic
import Ricochet.Geometry.Rect
import Ricochet.Text.Utf8

set_option autoImplicit false

/-! # The screen

A screen is a buffer of coloured characters, row by row. Drawing is a list of writes, each of one
cell, applied in order (`Screen.draw`); a write outside the screen is ignored, and of several writes
to one cell the last one stays. Reading is by cell (`Screen.get`), by row and as a whole.
-/

namespace Ricochet

/-- One character position: a character code and its colour. A code that is no Unicode scalar value
is shown as the replacement character. -/
structure Cell where
  glyph : Int
  color : Color
  deriving DecidableEq, Repr

/-- A space in the terminal's own colour. -/
def Cell.blank : Cell := ⟨32, Color.default⟩

instance : Inhabited Cell := ⟨Cell.blank⟩

/-- The cell that shows a character. -/
def Cell.ofChar (c : Char) (color : Color) : Cell := ⟨c.toNat, color⟩

/-- The character that a code shows. -/
def glyphChar (code : Int) : Char :=
  match code with
  | .ofNat n => if n.isValidChar then Char.ofNat n else Utf8.replacement
  | .negSucc _ => Utf8.replacement

/-- The character that a cell shows. -/
def Cell.char (c : Cell) : Char := glyphChar c.glyph

/-- A buffer of `height` rows of `width` cells. -/
structure Screen where
  width : Nat
  height : Nat
  rows : Array (Array Cell)
  deriving DecidableEq, Repr

/-- The placing of one cell. -/
structure Write where
  x : Int
  y : Int
  cell : Cell
  deriving DecidableEq, Repr

namespace Screen

/-- The blank screen of a given size. -/
def sized (width height : Nat) : Screen :=
  { width, height, rows := Array.ofFn fun _ : Fin height => Array.replicate width Cell.blank }

/-- The blank screen of a given size; a negative size counts as zero. -/
def new (width height : Int) : Screen := sized width.toNat height.toNat

/-- The same screen with every cell blank. -/
def clear (s : Screen) : Screen := sized s.width s.height

/-- A blank screen of a new size. Asking for the size it has leaves the screen as it is. -/
def resize (s : Screen) (width height : Int) : Screen :=
  if width = s.width ∧ height = s.height then s else new width height

/-- Whether a screen can be held in memory: its list of rows, and each row, takes at most `2^48`
bytes, of which a row's entry in the list takes 24 and a cell 8. -/
def fitsMemory (width height : Int) : Bool :=
  decide (24 * height ≤ Nat.pow 2 48 ∧ (height ≤ 0 ∨ 8 * width ≤ Nat.pow 2 48))

/-- The whole screen as a rectangle. -/
def bounds (s : Screen) : Rect := ⟨0, 0, s.width, s.height⟩

/-- Whether a cell is on the screen. -/
def onScreen (s : Screen) (x y : Int) : Bool :=
  decide (0 ≤ x ∧ x < s.width ∧ 0 ≤ y ∧ y < s.height)

/-- Places a cell; outside the screen nothing happens. -/
def set (s : Screen) (x y : Int) (c : Cell) : Screen :=
  if s.onScreen x y then
    { s with rows := s.rows.modify y.toNat (fun row => row.setIfInBounds x.toNat c) }
  else s

/-- The cell at a position, blank outside the screen. -/
def get (s : Screen) (x y : Int) : Cell :=
  if s.onScreen x y then ((s.rows[y.toNat]?).bind (fun row => row[x.toNat]?)).getD Cell.blank
  else Cell.blank

/-- Applies one write. -/
def write (s : Screen) (w : Write) : Screen := s.set w.x w.y w.cell

/-- Applies writes in order. -/
def draw (s : Screen) (ws : List Write) : Screen := ws.foldl write s

/-- The characters of a row; a row outside the screen is all spaces. -/
def rowChars (s : Screen) (y : Int) : List Char :=
  if 0 ≤ y ∧ y < s.height then ((s.rows[y.toNat]?).getD #[]).toList.map Cell.char
  else List.replicate s.width ' '

/-- A row as a string. -/
def row (s : Screen) (y : Int) : String := String.ofList (s.rowChars y)

/-- All cells, row by row, with a newline before every row but the first. -/
def text (s : Screen) : String :=
  String.ofList ((List.range s.height).flatMap fun y =>
    (if 0 < y then ['\n'] else []) ++ (List.range s.width).map fun x =>
      (((s.rows[y]?).bind fun row => row[x]?).getD Cell.blank).char)

end Screen

end Ricochet
