import Ricochet.Text.Printable
import Ricochet.Text.Utf8
import Ricochet.Decimal.Digits

set_option autoImplicit false

/-! # Quoted text

Messages show a foreign text between double quotes. Quote and backslash are escaped by a backslash,
the seven common control characters by a letter, other characters that are not printable by their
code, and a stray byte by its value. Printable characters stand for themselves.
-/

namespace Ricochet.Text

/-- The letter of a control character that has one. -/
def controlLetter? (c : Char) : Option Char :=
  match c.toNat with
  | 7 => some 'a'
  | 8 => some 'b'
  | 9 => some 't'
  | 10 => some 'n'
  | 11 => some 'v'
  | 12 => some 'f'
  | 13 => some 'r'
  | _ => none

/-- One character inside quotes. -/
def quotedChar (c : Char) : List Char :=
  if c = '"' ∨ c = '\\' then ['\\', c]
  else if isPrintable c then [c]
  else
    match controlLetter? c with
    | some l => ['\\', l]
    | none =>
        let n := c.toNat
        if n < 0x80 then '\\' :: 'x' :: Decimal.hexChars 2 n
        else if n < 0x10000 then '\\' :: 'u' :: Decimal.hexChars 4 n
        else '\\' :: 'U' :: Decimal.hexChars 8 n

/-- One piece of a text inside quotes. -/
def quotedPiece : Utf8.Piece → List Char
  | .char c => quotedChar c
  | .stray b => '\\' :: 'x' :: Decimal.hexChars 2 b.toNat

/-- A text of bytes between quotes. -/
def quoteBytes (text : List UInt8) : String :=
  String.ofList ('"' :: ((Utf8.decode text).flatMap quotedPiece ++ ['"']))

/-- A string between quotes. -/
def quote (s : String) : String :=
  String.ofList ('"' :: (s.toList.flatMap quotedChar ++ ['"']))

end Ricochet.Text
