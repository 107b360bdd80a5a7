import Ricochet.Text.Grapheme.Cluster

set_option autoImplicit false

/-! # How wide text is on a terminal

The width of a text is the number of cells that it moves the cursor by. A terminal reads bytes:
printable ASCII takes a cell each, escape sequences take none, and elsewhere a character beyond
ASCII takes the width of the unit it begins. Inside a title or a device string even such characters
are swallowed, byte by byte, and one of their bytes may end the string. A stray byte that could
begin a character takes a cell, and any other is read as a control.
-/

namespace Ricochet.Terminal

/-- What a terminal is in the middle of. -/
inductive Reading where
  /-- Plain text. -/
  | ground
  | escape
  | escapeIntermediate
  | sequenceEntry
  | sequenceParameter
  | sequenceIntermediate
  | deviceEntry
  | deviceParameter
  | deviceIntermediate
  | deviceString
  /-- A title or another operating system command. -/
  | title
  /-- A string without meaning. -/
  | ignoredString
  deriving DecidableEq, Repr

namespace Reading

/-- Control bytes that do not interrupt a sequence. -/
def isQuiet (b : Nat) : Bool := b < 0x18 || b = 0x19 || (0x1C ≤ b && b < 0x20) || b = 0x7F

/-- Bytes that mean the same almost everywhere: they end a sequence or begin one. -/
def anywhere (b : Nat) : Reading :=
  if b = 0x1B then .escape
  else if b = 0x90 then .deviceEntry
  else if b = 0x98 || b = 0x9E || b = 0x9F then .ignoredString
  else if b = 0x9B then .sequenceEntry
  else if b = 0x9D then .title
  else .ground

/-- The state after the byte that follows an escape. -/
def afterEscape (b : Nat) : Reading :=
  if isQuiet b then .escape
  else if 0x20 ≤ b && b < 0x30 then .escapeIntermediate
  else if b = 0x50 then .deviceEntry
  else if b = 0x58 || b = 0x5E || b = 0x5F then .ignoredString
  else if b = 0x5B then .sequenceEntry
  else if b = 0x5D then .title
  else anywhere b

/-- The state after a byte at the start or among the parameters of a control sequence. -/
def inSequence (s : Reading) (b : Nat) : Reading :=
  if isQuiet b then s
  else if 0x20 ≤ b && b < 0x30 then .sequenceIntermediate
  else if 0x30 ≤ b && b < 0x40 then .sequenceParameter
  else anywhere b

/-- The state after a byte at the start or among the parameters of a device string. -/
def inDevice (s : Reading) (b : Nat) : Reading :=
  if s = .deviceEntry && ((0x08 ≤ b && b < 0x0E) || b = 0x1B) then .deviceString
  else if isQuiet b then s
  else if 0x20 ≤ b && b < 0x30 then .deviceIntermediate
  else if 0x30 ≤ b && b < 0x40 then
    if s = .deviceIntermediate then .deviceString else .deviceParameter
  else if 0x40 ≤ b && b < 0x7F then .deviceString
  else anywhere b

/-- The state after a byte inside a string that swallows everything but its end. -/
def inString (s : Reading) (b : Nat) : Reading :=
  if b = 0x1B then .escape
  else if b = 0x18 || b = 0x1A || b = 0x9C then .ground
  else if b = 0x07 && s = .title then .ground
  else s

/-- The state after a byte. -/
def next (s : Reading) (b : Nat) : Reading :=
  match s with
  | .ground => anywhere b
  | .escape => afterEscape b
  | .escapeIntermediate => if isQuiet b || (0x20 ≤ b && b < 0x30) then s else anywhere b
  | .sequenceEntry | .sequenceParameter => inSequence s b
  | .sequenceIntermediate => if isQuiet b || (0x20 ≤ b && b < 0x30) then s else anywhere b
  | .deviceEntry | .deviceParameter | .deviceIntermediate => inDevice s b
  | .deviceString | .title => inString s b
  | .ignoredString => if isQuiet b || (0x20 ≤ b && b < 0x80) then s else anywhere b

/-- Whether characters beyond ASCII are swallowed. -/
def swallows (s : Reading) : Bool := s = .deviceString || s = .title

/-- The cells that an ASCII character takes. -/
def asciiCells (s : Reading) (b : Nat) : Nat := if s = .ground && 0x20 ≤ b && b < 0x7F then 1 else 0

/-- The state after bytes in order. -/
def nextAll (s : Reading) (bytes : List UInt8) : Reading :=
  bytes.foldl (fun s b => s.next b.toNat) s

end Reading

/-- The bytes of a piece of text. -/
def pieceBytes : Utf8.Piece → List UInt8
  | .char c => Utf8.bytes (String.singleton c)
  | .stray b => [b]

/-- Whether a piece begins a unit of its own outside of strings: a character beyond ASCII, or a
stray byte that could begin one. -/
def beginsUnit : Utf8.Piece → Bool
  | .char c => 0x80 ≤ c.toNat
  | .stray b => 0xC2 ≤ b.toNat && b.toNat ≤ 0xF4

/-- The cells that a piece takes by itself, if it begins no unit. -/
def Reading.cells (s : Reading) : Utf8.Piece → Nat
  | .char c => s.asciiCells c.toNat
  | .stray _ => 0

/-- The cells that the rest of a text takes. -/
def widthFrom (s : Reading) (text : List Utf8.Piece) : Nat :=
  match text with
  | [] => 0
  | p :: ps =>
      if beginsUnit p && !s.swallows then
        (Text.splitCluster p ps).1 + widthFrom .ground (Text.splitCluster p ps).2
      else s.cells p + widthFrom (s.nextAll (pieceBytes p)) ps
termination_by text.length
decreasing_by
  · exact Text.length_splitCluster_lt p ps
  · simp

/-- The cells that a text given as bytes takes. -/
def width (text : List UInt8) : Nat := widthFrom .ground (Utf8.decode text)

end Ricochet.Terminal
