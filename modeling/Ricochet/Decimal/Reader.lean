import Ricochet.Decimal.Digits

set_option autoImplicit false

/-! # Reading decimal numbers

`Decimal.read?` reads the text of a decimal number: digits with an optional point, and an optional
exponent. At least one digit must stand before the exponent. A single underscore may stand between
two digits. The result is the nearest binary64 number; a number beyond the largest finite one is
refused, one below the smallest becomes zero.
-/

namespace Ricochet.Decimal

/-- The parts of a written number: its sign, its digits without the point, and how many powers of
ten to multiply by. -/
structure Literal where
  negative : Bool
  digits : List Char
  exponent : Int
  deriving DecidableEq, Repr

/-- Splits off an optional sign; `true` for minus. -/
def splitSign : List Char → Bool × List Char
  | '+' :: cs => (false, cs)
  | '-' :: cs => (true, cs)
  | cs => (false, cs)

/-- Whether every underscore stands between two digits. -/
def underscoresSeparate : List Char → Bool
  | cs => go false cs
where
  /-- `afterDigit` tells whether the character before was a digit. -/
  go (afterDigit : Bool) : List Char → Bool
    | [] => true
    | '_' :: c :: cs => afterDigit && isDigit c && go true cs
    | ['_'] => false
    | c :: cs => go (isDigit c) cs

/-- A nonempty run of digits with an optional sign, as an integer. -/
def signedDigits? (cs : List Char) : Option Int :=
  let (negative, ds) := splitSign cs
  if ds.isEmpty then none
  else (valueIn? 10 ds).map (fun n => if negative then -(n : Int) else n)

/-- Reads a number that holds no underscore. -/
def Literal.parsePlain? (cs : List Char) : Option Literal :=
  let (negative, cs) := splitSign cs
  let whole := cs.takeWhile isDigit
  let cs := cs.dropWhile isDigit
  let (fraction, cs) :=
    match cs with
    | '.' :: rest => (rest.takeWhile isDigit, rest.dropWhile isDigit)
    | _ => ([], cs)
  if whole.isEmpty ∧ fraction.isEmpty then none
  else
    let literal (e : Int) : Literal := ⟨negative, whole ++ fraction, e - fraction.length⟩
    match cs with
    | [] => some (literal 0)
    | c :: rest => if c = 'e' ∨ c = 'E' then (signedDigits? rest).map literal else none

/-- Reads a number. -/
def Literal.parse? (cs : List Char) : Option Literal :=
  if underscoresSeparate cs then Literal.parsePlain? (cs.filter (· ≠ '_')) else none

/-- The nearest binary64 number, or `none` beyond the largest finite one. Powers of ten that settle
the question by their size alone are not computed. -/
def Literal.toFloat? (l : Literal) : Option Float :=
  let digits := l.digits.dropWhile (· = '0')
  let mantissa := (valueIn? 10 digits).getD 0
  let size : Int := digits.length + l.exponent
  let signed (x : Float) : Float := if l.negative then -x else x
  if mantissa = 0 ∨ size < -400 then some (signed 0.0)
  else if 400 < size then none
  else
    let x :=
      match l.exponent with
      | .ofNat e => Float.ofScientific mantissa false e
      | .negSucc e => Float.ofScientific mantissa true (e + 1)
    if x.isInf then none else some (signed x)

/-- Reads a decimal number as binary64. -/
def read? (cs : List Char) : Option Float := (Literal.parse? cs).bind Literal.toFloat?

end Ricochet.Decimal
