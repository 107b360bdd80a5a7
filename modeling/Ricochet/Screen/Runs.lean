import Ricochet.Screen.Basic

set_option autoImplicit false

/-! # Runs of equal colour

A row is shown as runs of adjacent cells of one colour, so that each run is styled once. The style
of a colour is made when it is first needed and kept for the rest of the screen. `Screen.rendered`
takes the making and the use of styles as parameters.
-/

namespace Ricochet

/-- Adjacent cells of one colour: the colour and the character codes, left to right. -/
structure Run where
  color : Color
  glyphs : List Int
  deriving DecidableEq, Repr

/-- The characters of a run. -/
def Run.chars (r : Run) : List Char := r.glyphs.map glyphChar

/-- Cells grouped into runs. -/
def runs : List Cell → List Run
  | [] => []
  | c :: cs =>
      match runs cs with
      | r :: rs =>
          if c.color = r.color then ⟨r.color, c.glyph :: r.glyphs⟩ :: rs
          else ⟨c.color, [c.glyph]⟩ :: r :: rs
      | [] => [⟨c.color, [c.glyph]⟩]

section Styles

variable {σ : Type}

/-- The style of a colour. One that was made before is used again, and a new one is kept. -/
def styleFor (make : Color → σ) (c : Color) : StateM (List (Color × σ)) σ := do
  match (← get).lookup c with
  | some style => return style
  | none =>
      modify ((c, make c) :: ·)
      return make c

/-- A run as shown: plain in the terminal's own colour, otherwise styled. -/
def showRun (make : Color → σ) (styled : σ → String → String) (r : Run) :
    StateM (List (Color × σ)) String := do
  let text := String.ofList r.chars
  if r.color.set then
    let style ← styleFor make r.color
    return styled style text
  else return text

/-- A row as shown, run by run. -/
def showRow (make : Color → σ) (styled : σ → String → String) (rs : List Run) :
    StateM (List (Color × σ)) String := do
  return String.join (← rs.mapM (showRun make styled))

end Styles

namespace Screen

/-- The cells of a row on the screen. -/
def rowCells (s : Screen) (y : Nat) : List Cell := ((s.rows[y]?).getD #[]).toList

/-- The runs of every row. -/
def rowRuns (s : Screen) : List (List Run) := (List.range s.height).map fun y => runs (s.rowCells y)

/-- The screen as styled text, its rows joined by newlines. No style is made at first, and all rows
share the styles that are made. -/
def rendered {σ : Type} (s : Screen) (make : Color → σ) (styled : σ → String → String) : String :=
  "\n".intercalate ((s.rowRuns.mapM (showRow make styled)).run []).1

end Screen

end Ricochet
