import Ricochet.Text.Utf8
import Ricochet.Yaml.Token
import Ricochet.Yaml.Token.Scalar

set_option autoImplicit false

/-! # Names, tags and directives in a text

Anchors and aliases are marks with a name. A tag is a handle and a suffix, in which any character
may be written byte by byte with percent signs. A directive is a line of its own before a document.
-/

namespace Ricochet.Yaml

/-- Reads characters of names. -/
def readName (c : Cursor) : List Char × Cursor :=
  let c := c.need 1
  let name := c.rest.takeWhile isNameChar
  (name, c.pass 1 name.length)

/-- Reads an anchor or an alias: a mark and a name. -/
def readAnchor (c : Cursor) : Except Fault (List Char × Cursor) :=
  let (name, c) := readName c.advance
  if name.isEmpty || !(endsWord c.head? || c.sees followsAnchor) then faultAt c .anchorName
  else .ok (name, c)

/-! ## Tags -/

/-- The handle at the start of a tag: `!`, or `!name!`, or the start of a longer tag. -/
def readTagHandle (c : Cursor) : Except Fault (List Char × Cursor) :=
  let c := c.need 1
  if c.isAt '!' then
    let (name, c) := readName c.advance
    if c.isAt '!' then .ok ('!' :: (name ++ ['!']), c.advance) else .ok ('!' :: name, c)
  else faultAt c .tagMark

/-- How many bytes a character has by its first byte, if the byte can be one. -/
def characterLength? (lead : Nat) : Option Nat :=
  if lead < 0x80 then some 1
  else if lead < 0xC0 then none
  else if lead < 0xE0 then some 2
  else if lead < 0xF0 then some 3
  else if lead < 0xF8 then some 4
  else none

/-- A byte written as a percent sign and two hexadecimal digits. -/
def readEscapedByte (c : Cursor) : Except Fault (Nat × Cursor) :=
  let c := c.need 3
  match c.rest with
  | '%' :: a :: b :: _ =>
      match Decimal.hexDigit? a, Decimal.hexDigit? b with
      | some high, some low => .ok (high * 16 + low, c.skip 3)
      | _, _ => faultAt c .tagOctet
  | _ => faultAt c .tagOctet

/-- `n` further bytes of a character, added to those of a tag, which are kept latest first. -/
def readTail : Nat → List UInt8 → Cursor → Except Fault (List UInt8 × Cursor)
  | 0, bytes, c => .ok (bytes, c)
  | n + 1, bytes, c => do
      let (b, c) ← readEscapedByte c
      if 0x80 ≤ b ∧ b < 0xC0 then readTail n (b.toUInt8 :: bytes) c else faultAt c .tagTail

/-- A character written byte by byte. Whether the bytes spell one is not looked at beyond their
number. -/
def readEscapedChar (bytes : List UInt8) (c : Cursor) : Except Fault (List UInt8 × Cursor) := do
  let (lead, c) ← readEscapedByte c
  match characterLength? lead with
  | some n => readTail (n - 1) (lead.toUInt8 :: bytes) c
  | none => faultAt c .tagLead

/-- The bytes of the characters that a tag may hold, latest first, with percent signs resolved. -/
def readTagBytes : Nat → List UInt8 → Cursor → Except Fault (List UInt8 × Cursor)
  | 0, bytes, c => .ok (bytes, c)
  | fuel + 1, bytes, c =>
      match c.head? with
      | some '%' => do
          let (bytes, c) ← readEscapedChar bytes c
          readTagBytes fuel bytes (c.need 1)
      | some ch =>
          if isNameChar ch || isTagPunctuation ch then
            readTagBytes fuel (ch.toNat.toUInt8 :: bytes) (c.advance.need 1)
          else .ok (bytes, c)
      | none => .ok (bytes, c)

/-- The body of a tag, after the characters of `lead`. -/
def readTagBody (fuel : Nat) (lead : List Char) (c : Cursor) :
    Except Fault (List Char × Cursor) := do
  let (bytes, c) ← readTagBytes fuel [] (c.need 1)
  return (lead ++ Utf8.chars bytes.reverse, c)

/-- Reads a tag as handle and suffix. The handle is empty for a tag written in full and for the
lone `!`. -/
def readTag (fuel : Nat) (c : Cursor) : Except Fault (List Char × List Char × Cursor) := do
  let c := c.need 2
  let (handle, suffix, c) ←
    if c.ahead? 1 = some '<' then
      let (suffix, c) ← readTagBody fuel [] (c.skip 2)
      if suffix.isEmpty then faultAt c .tagText
      else if c.isAt '>' then .ok ([], suffix, c.advance)
      else faultAt c .tagClose
    else
      let (handle, c) ← readTagHandle c
      if 1 < handle.length && handle.getLast? = some '!' then
        let (suffix, c) ← readTagBody fuel [] c
        if suffix.isEmpty then faultAt c .tagText else .ok (handle, suffix, c)
      else
        let (suffix, c) ← readTagBody fuel (handle.drop 1) c
        if suffix.isEmpty then .ok ([], ['!'], c) else .ok (['!'], suffix, c)
  let c := c.need 1
  if endsWord c.head? then .ok (handle, suffix, c) else faultAt c .tagEnd

/-! ## Directives -/

/-- Up to two digits of a version number. -/
def readVersionPart (c : Cursor) : Except Fault (Nat × Cursor) :=
  let c := c.need 1
  let digits := c.rest.takeWhile Decimal.isDigit
  if digits.isEmpty then faultAt c .versionMissing
  else if 2 < digits.length then faultAt c .versionLong
  else .ok ((Decimal.valueIn? 10 digits).getD 0, c.pass 1 digits.length)

/-- A version: two numbers with a point between them. -/
def readVersion (c : Cursor) : Except Fault (TokenKind × Cursor) := do
  let (major, c) ← readVersionPart (c.passWhile isBlank)
  if c.isAt '.' then
    let (minor, c) ← readVersionPart c.advance
    .ok (TokenKind.version major minor, c)
  else faultAt c .versionPoint

/-- A handle and what it stands for. -/
def readTagDirective (fuel : Nat) (c : Cursor) : Except Fault (TokenKind × Cursor) := do
  let (handle, c) ← readTagHandle (c.passWhile isBlank)
  let c := c.need 1
  if handle ≠ ['!'] && handle.getLast? ≠ some '!' then faultAt c .tagMark
  else if !c.sees isBlank then faultAt c .handleEnd
  else
    let (shorthand, c) ← readTagBody fuel [] (c.passWhile isBlank)
    let c := c.need 1
    if shorthand.isEmpty then faultAt c .tagText
    else if !endsWord c.head? then faultAt c .tagEnd
    else .ok (TokenKind.tagDirective handle shorthand, c)

/-- Reads a directive line and gives its token. -/
def readDirective (fuel : Nat) (c : Cursor) : Except Fault (TokenKind × Cursor) := do
  let (name, c) := readName c.advance
  if name.isEmpty then faultAt c .directiveName
  else if !endsWord c.head? then faultAt c .directiveLetter
  else
    let (kind, c) ←
      if name = "YAML".toList then readVersion c
      else if name = "TAG".toList then readTagDirective fuel c
      else faultAt c .unknownDirective
    let c := c.passWhile isBlank
    let c := if c.isAt '#' then c.passLine else c
    if endsLine c.head? then .ok (kind, c.passBreak) else faultAt c .lineEnd

end Ricochet.Yaml
