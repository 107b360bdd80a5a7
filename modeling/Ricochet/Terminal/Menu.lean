import Ricochet.Registry
import Ricochet.Text.Padding
import Ricochet.Terminal.Session

set_option autoImplicit false

/-! # The menu

The menu lists the demos and lets the user choose one. Its cursor moves by one line and stops at
either end.
-/

namespace Ricochet.Terminal

/-- The state of the menu. -/
structure Menu where
  items : List Listing
  /-- The line the cursor is on. -/
  cursor : Int
  /-- The name of the chosen demo; empty before one is chosen. -/
  selected : List UInt8
  quitting : Bool
  helpWidth : Int
  deriving DecidableEq, Repr

/-- How the title looks. -/
def titleStyle : Style := ⟨true, .palette 208⟩

/-- How the line under the cursor looks. -/
def selectedStyle : Style := ⟨true, .palette 14⟩

/-- How the other lines look. -/
def itemStyle : Style := ⟨false, .palette 7⟩

namespace Menu

/-- The menu of the given demos, with the cursor on the first. -/
def new (items : List Listing) : Menu :=
  { items := items, cursor := 0, selected := [], quitting := false, helpWidth := 0 }

/-- The cursor one line up, unless it is on the first. -/
def moveUp (m : Menu) : Menu := if 0 < m.cursor then { m with cursor := m.cursor - 1 } else m

/-- The cursor one line down, unless it is on the last. -/
def moveDown (m : Menu) : Menu :=
  if m.cursor < m.items.length - 1 then { m with cursor := m.cursor + 1 } else m

/-- The item under the cursor. -/
def current? (m : Menu) : Option Listing :=
  if 0 ≤ m.cursor then m.items[m.cursor.toNat]? else none

/-- Chooses the item under the cursor. -/
def choose (m : Menu) : Menu × Request :=
  match m.current? with
  | some item => ({ m with selected := item.id }, .quit)
  | none => (m, .nothing)

/-- Handles a key. -/
def pressed (m : Menu) (k : Key) : Menu × Request :=
  if MenuKeys.quit.matches k then ({ m with quitting := true }, .quit)
  else if MenuKeys.up.matches k then (m.moveUp, .nothing)
  else if MenuKeys.down.matches k then (m.moveDown, .nothing)
  else if MenuKeys.select.matches k then m.choose
  else (m, .nothing)

/-- One message: the new state and the request. -/
def update (m : Menu) : Message → Menu × Request
  | .key k => m.pressed k
  | .resize width _ => ({ m with helpWidth := width }, .nothing)
  | .tick _ => (m, .nothing)
  | .other => (m, .nothing)

/-- One line of the menu. -/
def itemLine (m : Menu) (p : Profile) (i : Nat) (item : Listing) : String :=
  let line := Text.padBytes 8 item.id ++ Utf8.bytes (" " ++ item.title)
  if i = m.cursor then selectedStyle.renderBytes p (Utf8.bytes "> " ++ line)
  else itemStyle.renderBytes p (Utf8.bytes "  " ++ line)

/-- What the terminal shows; nothing once a demo is chosen or the menu is being left. -/
def view (m : Menu) (p : Profile) : String :=
  if m.quitting || m.selected ≠ [] then ""
  else
    let body :=
      if m.items.isEmpty then "No demos available.\n"
      else String.join (m.items.zipIdx.map fun (item, i) => m.itemLine p i item ++ "\n")
    titleStyle.render p "Bounce" ++ "\n\n" ++ body ++ "\n" ++ helpLine p m.helpWidth MenuKeys.help

end Menu

end Ricochet.Terminal
