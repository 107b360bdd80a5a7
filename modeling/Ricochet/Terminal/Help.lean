import Ricochet.Terminal.Key
import Ricochet.Terminal.Style

set_option autoImplicit false

/-! # The line of help

Bindings are explained on one line, each by its key and what it does. A line that is limited in
width ends before the first binding that does not fit, with an ellipsis if there is room for one.
-/

namespace Ricochet.Terminal

/-- How keys look. -/
def helpKeyStyle : Style := ⟨false, .rgb 0x62 0x62 0x62⟩

/-- How explanations look. -/
def helpTextStyle : Style := ⟨false, .rgb 0x4A 0x4A 0x4A⟩

/-- How separators and the ellipsis look. -/
def helpMarkStyle : Style := ⟨false, .rgb 0x3C 0x3C 0x3C⟩

/-- What stands between two bindings. -/
def helpSeparator : String := " • "

/-- The explanation of one binding. -/
def Binding.explained (b : Binding) (p : Profile) : String :=
  helpKeyStyle.render p b.helpKey ++ " " ++ helpTextStyle.render p b.helpText

/-- The cells that the explanation of a binding takes. -/
def Binding.explainedWidth (b : Binding) : Nat :=
  width (Utf8.bytes b.helpKey) + 1 + width (Utf8.bytes b.helpText)

/-- The end of a line that could not hold every binding. -/
def helpTail (p : Profile) (limit : Int) (used : Nat) : String :=
  if (used + 2 : Int) < limit then " " ++ helpMarkStyle.render p "…" else ""

/-- The rest of the line after `used` cells. -/
def helpFrom (p : Profile) (limit : Int) : Nat → List Binding → String
  | _, [] => ""
  | used, b :: bs =>
      let separator := if used = 0 then "" else helpMarkStyle.render p helpSeparator
      let total :=
        used + (if used = 0 then 0 else width (Utf8.bytes helpSeparator)) + b.explainedWidth
      if 0 < limit ∧ limit < total then helpTail p limit used
      else separator ++ b.explained p ++ helpFrom p limit total bs

/-- The line of help; a limit that is not positive is none. -/
def helpLine (p : Profile) (limit : Int) (bs : List Binding) : String := helpFrom p limit 0 bs

end Ricochet.Terminal
