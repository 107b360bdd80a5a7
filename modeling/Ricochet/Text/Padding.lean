import Ricochet.Text.Utf8

set_option autoImplicit false

/-! # Text in columns -/

namespace Ricochet.Text

/-- A text filled with spaces on the right to at least `n` characters. -/
def padRight (n : Nat) (text : String) : String :=
  text ++ String.ofList (List.replicate (n - text.length) ' ')

/-- The same for a text of bytes, in which a stray byte counts as a character. -/
def padBytes (n : Nat) (text : List UInt8) : List UInt8 :=
  text ++ List.replicate (n - (Utf8.decode text).length) 0x20

end Ricochet.Text
