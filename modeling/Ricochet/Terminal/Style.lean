import Ricochet.Color.Basic
import Ricochet.Decimal.Digits
import Ricochet.Numeric.Scalar
import Ricochet.Terminal.Width

set_option autoImplicit false

/-! # Styled text

A terminal shows text in colour when escape sequences surround it. A terminal without colour gets
the bare text. In both cases styling turns tabs into spaces and brings the lines of a text to one
width, so that the two differ in escape sequences only.
-/

namespace Ricochet.Terminal

/-- What the terminal can show. -/
inductive Profile where
  | plain
  | trueColor
  deriving DecidableEq, Repr

/-- A foreground: three channels, or a place in the terminal's palette. -/
inductive Paint where
  | rgb (red green blue : UInt8)
  | palette (index : Nat)
  deriving DecidableEq, Repr

/-- How text looks. -/
structure Style where
  bold : Bool
  paint : Paint
  deriving DecidableEq, Repr

/-- Text of normal weight in a colour. -/
def Style.ofColor (c : Color) : Style := ⟨false, .rgb c.red c.green c.blue⟩

/-- A channel as the terminal is told it: taken to a fraction of one and back in binary64, rounded
down, which makes some channels smaller by one. -/
def shownChannel (c : UInt8) : Int :=
  Scalar.truncInt (c.toFloat * (1.0 / 255.0) * 255.0)

/-- The numbers that select a paint. -/
def Paint.codes : Paint → List Int
  | .rgb red green blue => [38, 2, shownChannel red, shownChannel green, shownChannel blue]
  | .palette n =>
      if n < 8 then [30 + n]
      else if n < 16 then [82 + n]
      else [38, 5, n]

/-- The numbers that select a style. -/
def Style.codes (s : Style) : List Int := (if s.bold then [1] else []) ++ s.paint.codes

/-- What selects a style. -/
def Style.opening (s : Style) : String :=
  "\x1b[" ++ ";".intercalate (s.codes.map Decimal.intText) ++ "m"

/-- What ends a style. -/
def styleEnd : String := "\x1b[0m"

/-- One line in a style. -/
def Style.line (s : Style) (p : Profile) (text : List UInt8) : List UInt8 :=
  match p with
  | .plain => text
  | .trueColor => Utf8.bytes s.opening ++ text ++ Utf8.bytes styleEnd

/-- Every tab as four spaces, and every pair of carriage return and newline as a newline. -/
def settled : List UInt8 → List UInt8
  | [] => []
  | 0x09 :: rest => 0x20 :: 0x20 :: 0x20 :: 0x20 :: settled rest
  | 0x0D :: 0x0A :: rest => 0x0A :: settled rest
  | b :: rest => b :: settled rest

/-- The lines of a text. There is always one, and a newline begins another. -/
def linesOf : List UInt8 → List (List UInt8)
  | [] => [[]]
  | 0x0A :: rest => [] :: linesOf rest
  | b :: rest =>
      match linesOf rest with
      | [] => [[b]]
      | line :: lines => (b :: line) :: lines

/-- Text given as bytes in a style. Each line is styled by itself; the lines of a text of several
are filled with spaces to the width of the widest. -/
def Style.renderBytes (s : Style) (p : Profile) (text : List UInt8) : String :=
  let lines := (linesOf (settled text)).map (s.line p)
  let widest := (lines.map width).foldl max 0
  "\n".intercalate (lines.map fun line =>
    Utf8.toString line ++ String.ofList (List.replicate (widest - width line) ' '))

/-- Text in a style. -/
def Style.render (s : Style) (p : Profile) (text : String) : String :=
  s.renderBytes p (Utf8.bytes text)

end Ricochet.Terminal
