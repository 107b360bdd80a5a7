import Ricochet.Decimal.Digits

set_option autoImplicit false

/-! # Colours

A colour has three channels and may be left to the terminal: a colour that is not `set` means the
terminal's own foreground, whatever its channels hold.
-/

namespace Ricochet

/-- A 24-bit display colour, or the terminal's own foreground when not `set`. -/
structure Color where
  red : UInt8
  green : UInt8
  blue : UInt8
  set : Bool
  deriving DecidableEq, Repr

namespace Color

/-- The colour with the given channels. -/
def rgb (red green blue : UInt8) : Color := ⟨red, green, blue, true⟩

/-- The terminal's own foreground. -/
def default : Color := ⟨0, 0, 0, false⟩

/-- White. -/
def white : Color := rgb 255 255 255

/-- The gray of frames and status lines. -/
def gray : Color := rgb 138 138 138

/-- The orange of the single ball. -/
def orange : Color := rgb 245 128 37

instance : Inhabited Color := ⟨Color.default⟩

/-- The two lower-case hexadecimal digits of a channel. -/
def channelChars (c : UInt8) : List Char :=
  [Decimal.digitChar (c.toNat / 16), Decimal.digitChar (c.toNat % 16)]

/-- `#rrggbb`, or nothing for the terminal's own foreground. -/
def hexChars (c : Color) : List Char :=
  if c.set then '#' :: (channelChars c.red ++ channelChars c.green ++ channelChars c.blue) else []

/-- `#rrggbb` as a string, or the empty string for the terminal's own foreground. -/
def hex (c : Color) : String := String.ofList c.hexChars

end Color

end Ricochet
