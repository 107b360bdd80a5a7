import Ricochet.Decimal.Shortest

set_option autoImplicit false

/-! # Why a field cannot be built -/

namespace Ricochet

/-- The reasons, with the numbers that messages show. -/
inductive FieldError (α : Type) where
  | noSource
  | negativeCount (count : Int)
  | minRadius (radius : α)
  | maxRadius (maxRadius minRadius : α)
  | width (width maxRadius : α)
  | height (height maxRadius : α)
  | speedBounds (minSpeed maxSpeed : α)
  | domain (width height : α)
  | ballRadius (index : Nat) (radius : α)
  | ballOutside (index : Nat) (x y radius : α)
  deriving DecidableEq, Repr

namespace FieldError

/-- The words that end every message about a field. -/
def ending : String := ": invalid ball field configuration"

/-- What is wrong, in words. -/
def reason : FieldError Float → String
  | .noSource => "nil random source"
  | .negativeCount n => "count " ++ Decimal.intText n ++ " is negative"
  | .minRadius r => "min radius " ++ number r ++ " must be positive"
  | .maxRadius hi lo => "max radius " ++ number hi ++ " must exceed min radius " ++ number lo
  | .width w r => "width " ++ number w ++ " must exceed twice the max radius " ++ number r
  | .height h r => "height " ++ number h ++ " must exceed twice the max radius " ++ number r
  | .speedBounds lo hi =>
      "speed bounds [" ++ number lo ++ ", " ++ number hi ++ ") are not a finite range"
  | .domain w h => "domain " ++ number w ++ "x" ++ number h ++ " must be positive"
  | .ballRadius i r => "ball " ++ Decimal.intText i ++ " radius " ++ number r ++ " must be positive"
  | .ballOutside i x y r =>
      "ball " ++ Decimal.intText i ++ " at (" ++ number x ++ ", " ++ number y ++ ") with radius "
        ++ number r ++ " is outside the domain"
where
  /-- A number in a message. -/
  number (x : Float) : String := Decimal.messageNumber.text x

/-- The message of a field that cannot be built. -/
def message (e : FieldError Float) : String := "ballfield: " ++ e.reason ++ ending

end FieldError

end Ricochet
