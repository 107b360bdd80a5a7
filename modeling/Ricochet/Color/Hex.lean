import Ricochet.Color.Basic
import Ricochet.Text.Quoted

set_option autoImplicit false

/-! # Reading colours

`Color.parse` reads `rrggbb`, with or without a leading `#`. The text after the `#` must have six
bytes. From it three channels are read: before each, white space is passed over, then one or two
hexadecimal digits are taken. What stands after the third channel is not looked at, so texts such as
`" 1 2 3"` and `"12345g"` name colours too.
-/

namespace Ricochet

/-- Why a channel cannot be read. -/
inductive ChannelFault where
  | endOfText
  | newline
  | noDigit
  deriving DecidableEq, Repr

/-- A text that names no colour: its bytes after the `#`, and the fault of a channel, or none when
the length is wrong. -/
structure ColorError where
  text : List UInt8
  fault : Option ChannelFault
  deriving DecidableEq, Repr

namespace ChannelFault

/-- The words of a fault. -/
def message : ChannelFault → String
  | .endOfText => "EOF"
  | .newline => "unexpected newline"
  | .noDigit => "expected integer"

end ChannelFault

namespace ColorError

/-- The message of a colour that cannot be read. -/
def message (e : ColorError) : String :=
  let head := "core: invalid color " ++ Text.quoteBytes e.text
  match e.fault with
  | none => head
  | some fault => head ++ ": " ++ fault.message

end ColorError

/-- White space between channels. A line feed is told apart and is not among it. -/
def isChannelSpace (c : Char) : Bool :=
  let n := c.toNat
  n = 0x20 || n = 0x09 || n = 0x0B || n = 0x0C || n = 0x0D || n = 0x85 || n = 0xA0 || n = 0x1680
    || (0x2000 ≤ n && n ≤ 0x200A) || n = 0x2028 || n = 0x2029 || n = 0x202F || n = 0x205F
    || n = 0x3000

namespace Color

/-- Passes over white space before a channel; a line feed there is a fault. -/
def skipSpace : List Char → Except ChannelFault (List Char)
  | [] => .ok []
  | c :: cs =>
      if c = '\n' then .error .newline
      else if isChannelSpace c then skipSpace cs
      else .ok (c :: cs)

/-- Reads one channel: white space, then one or two hexadecimal digits. -/
def readChannel (cs : List Char) : Except ChannelFault (UInt8 × List Char) := do
  match ← skipSpace cs with
  | [] => .error .endOfText
  | c :: cs =>
      match Decimal.hexDigit? c with
      | none => .error .noDigit
      | some high =>
          match cs with
          | [] => .ok (high.toUInt8, [])
          | d :: rest =>
              match Decimal.hexDigit? d with
              | none => .ok (high.toUInt8, d :: rest)
              | some low => .ok ((high * 16 + low).toUInt8, rest)

/-- Reads three channels. -/
def readChannels (cs : List Char) : Except ChannelFault Color := do
  let (red, cs) ← readChannel cs
  let (green, cs) ← readChannel cs
  let (blue, _) ← readChannel cs
  return rgb red green blue

/-- The bytes of a text without one leading `#`. -/
def dropHash : List UInt8 → List UInt8
  | b :: bs => if b = 35 then bs else b :: bs
  | [] => []

/-- Reads a colour from the bytes of its name. -/
def parseBytes (text : List UInt8) : Except ColorError Color :=
  let body := dropHash text
  if body.length = 6 then
    match readChannels (Utf8.chars body) with
    | .ok c => .ok c
    | .error fault => .error ⟨body, some fault⟩
  else .error ⟨body, none⟩

/-- What reading a colour gives back: a colour, and what is wrong with the text, if anything. A text
that names no colour comes with the terminal's own foreground. -/
def reading (text : List UInt8) : Color × Option ColorError :=
  match parseBytes text with
  | .ok c => (c, none)
  | .error e => (Color.default, some e)

/-- Reads a colour. -/
def parse (s : String) : Except ColorError Color := parseBytes (Utf8.bytes s)

end Color

end Ricochet
