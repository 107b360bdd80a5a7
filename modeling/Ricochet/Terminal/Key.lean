import Ricochet.Input

set_option autoImplicit false

/-! # Keys and their bindings

A pressed key has a label, and a binding is a list of labels. Typed characters are their own label,
other keys have names. Pasted text is labelled in brackets, so that it never triggers a binding.
-/

namespace Ricochet.Terminal

/-- A pressed key: typed or pasted characters, or a named key; with or without the alt key. -/
inductive Key where
  | typed (text : String) (alt : Bool)
  | pasted (text : String) (alt : Bool)
  | named (name : String) (alt : Bool)
  deriving DecidableEq, Repr

/-- The label that bindings compare. -/
def Key.label : Key → String
  | .typed text alt => mark alt ++ text
  | .pasted text alt => mark alt ++ "[" ++ text ++ "]"
  | .named name alt => mark alt ++ name
where
  /-- The mark of the alt key. -/
  mark (alt : Bool) : String := if alt then "alt+" else ""

/-- Keys that mean the same, with the words that explain them. -/
structure Binding where
  keys : List String
  helpKey : String
  helpText : String
  deriving DecidableEq, Repr

/-- Whether a key is one of the binding's. -/
def Binding.matches (b : Binding) (k : Key) : Bool := b.keys.contains k.label

/-! ## While a demo runs -/

namespace DemoKeys

/-- Suspends and resumes stepping. -/
def pause : Binding := ⟨["p", " "], "p/space", "pause"⟩

/-- Lets one step through. -/
def step : Binding := ⟨["n", "right"], "n", "step"⟩

/-- Starts over. -/
def restart : Binding := ⟨["r"], "r", "restart"⟩

/-- Goes back to the menu. -/
def back : Binding := ⟨["b", "esc"], "esc", "back"⟩

/-- Leaves the program. -/
def quit : Binding := ⟨["q", "ctrl+c"], "q", "quit"⟩

/-- The bindings in the order in which they are explained. -/
def help : List Binding := [pause, step, restart, back, quit]

/-- The action of a key. -/
def action (k : Key) : Action :=
  if quit.matches k then .quit
  else if pause.matches k then .pause
  else if step.matches k then .step
  else if restart.matches k then .restart
  else if back.matches k then .back
  else .none

end DemoKeys

/-! ## In the menu -/

namespace MenuKeys

/-- Moves the cursor up. -/
def up : Binding := ⟨["up", "k", "w"], "↑/k", "up"⟩

/-- Moves the cursor down. -/
def down : Binding := ⟨["down", "j", "s"], "↓/j", "down"⟩

/-- Chooses the item under the cursor. -/
def select : Binding := ⟨["enter", " "], "enter", "play"⟩

/-- Leaves the program. -/
def quit : Binding := ⟨["q", "esc", "ctrl+c"], "q", "quit"⟩

/-- The bindings in the order in which they are explained. -/
def help : List Binding := [up, down, select, quit]

end MenuKeys

end Ricochet.Terminal
