set_option autoImplicit false

/-! # Actions and input frames

Keys are mapped to actions, and the actions triggered during one frame are collected in an input
frame, which is a set of actions.
-/

namespace Ricochet

/-- What a viewer of a demo can ask for. Codes outside the six known ones are kept apart. -/
inductive Action where
  | none
  | pause
  | step
  | restart
  | back
  | quit
  | unknown (code : Int)
  deriving DecidableEq, Repr

namespace Action

/-- The action with a given code. -/
def ofCode (code : Int) : Action :=
  if code = 0 then .none
  else if code = 1 then .pause
  else if code = 2 then .step
  else if code = 3 then .restart
  else if code = 4 then .back
  else if code = 5 then .quit
  else .unknown code

/-- The code of an action. -/
def code : Action → Int
  | .none => 0
  | .pause => 1
  | .step => 2
  | .restart => 3
  | .back => 4
  | .quit => 5
  | .unknown code => code

/-- The name of an action. -/
def name : Action → String
  | .none => "None"
  | .pause => "Pause"
  | .step => "Step"
  | .restart => "Restart"
  | .back => "Back"
  | .quit => "Quit"
  | .unknown _ => "Unknown"

end Action

/-- The actions triggered during one frame, without repetition, latest first. -/
structure InputFrame where
  actions : List Action
  deriving DecidableEq, Repr

namespace InputFrame

/-- No action. -/
def empty : InputFrame := ⟨[]⟩

/-- Whether an action was triggered. -/
def has (f : InputFrame) (a : Action) : Bool := f.actions.contains a

/-- The frame with an action added. -/
def insert (f : InputFrame) (a : Action) : InputFrame :=
  if f.has a then f else ⟨a :: f.actions⟩

/-- The frame with the given actions. -/
def ofList (as : List Action) : InputFrame := as.foldl insert empty

end InputFrame

end Ricochet
