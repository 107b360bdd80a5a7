import Ricochet.Decimal.Digits
import Ricochet.Numeric.Binary64
import Ricochet.Numeric.Word
import Ricochet.Text.Utf8

set_option autoImplicit false

/-! # Durations

A duration is a signed 64-bit number of nanoseconds. `text` writes it with the largest fitting unit
below a second, and otherwise in hours, minutes and seconds; `parse` reads a sequence of decimal
numbers with units, such as `1h15m30.918s`.
-/

namespace Ricochet.Duration

/-- Nanoseconds in a microsecond. -/
def microsecond : Nat := 1000

/-- Nanoseconds in a millisecond. -/
def millisecond : Nat := 1000000

/-- Nanoseconds in a second. -/
def second : Nat := 1000000000

/-! ## Writing -/

/-- `n` over `10 ^ places` without trailing zeros, and without a point if it is whole. -/
def decimal (places n : Nat) : String :=
  let whole := Decimal.natChars (n / Nat.pow 10 places)
  let digits := Decimal.natChars (n % Nat.pow 10 places)
  let fraction := List.replicate (places - digits.length) '0' ++ digits
  let fraction := (fraction.reverse.dropWhile (· = '0')).reverse
  String.ofList (if n % Nat.pow 10 places = 0 then whole else whole ++ '.' :: fraction)

/-- The text of a natural number of nanoseconds. -/
def natText (n : Nat) : String :=
  if n = 0 then "0s"
  else if n < microsecond then decimal 0 n ++ "ns"
  else if n < millisecond then decimal 3 n ++ "µs"
  else if n < second then decimal 6 n ++ "ms"
  else
    let minutes := n / (60 * second)
    let seconds := decimal 9 (n % (60 * second)) ++ "s"
    if minutes = 0 then seconds
    else if minutes < 60 then decimal 0 minutes ++ "m" ++ seconds
    else decimal 0 (minutes / 60) ++ "h" ++ decimal 0 (minutes % 60) ++ "m" ++ seconds

/-- The text of a duration. -/
def text (d : Int) : String := if d < 0 then "-" ++ natText d.natAbs else natText d.natAbs

/-! ## Reading -/

/-- Why a text is no duration. -/
inductive Fault where
  | malformed
  | missingUnit
  | unknownUnit (name : List Char)
  deriving DecidableEq, Repr

/-- A text between quotes in which every byte outside printable ASCII is written by its value. -/
def quoted (cs : List Char) : String :=
  let escaped (c : Char) : List Char :=
    if c.toNat < 0x20 ∨ 0x80 ≤ c.toNat then
      (Utf8.bytes (String.singleton c)).flatMap fun b => '\\' :: 'x' :: Decimal.hexChars 2 b.toNat
    else if c = '"' ∨ c = '\\' then ['\\', c]
    else [c]
  String.ofList ('"' :: (cs.flatMap escaped ++ ['"']))

/-- The message of a text that is no duration. -/
def Fault.message (source : List Char) : Fault → String
  | .malformed => "time: invalid duration " ++ quoted source
  | .missingUnit => "time: missing unit in duration " ++ quoted source
  | .unknownUnit name =>
      "time: unknown unit " ++ quoted name ++ " in duration " ++ quoted source

/-- The nanoseconds in a unit. Microseconds may be spelt with either mu or with a `u`. -/
def unit? (name : List Char) : Option Nat :=
  if name = ['n', 's'] then some 1
  else if name = ['u', 's'] ∨ name = ['µ', 's'] ∨ name = ['μ', 's'] then some microsecond
  else if name = ['m', 's'] then some millisecond
  else if name = ['s'] then some second
  else if name = ['m'] then some (60 * second)
  else if name = ['h'] then some (3600 * second)
  else none

/-- The greatest magnitude of a duration. -/
def limit : Nat := 9223372036854775808

/-- The value of a run of digits, which must not pass the limit. -/
def whole? (ds : List Char) : Option Nat :=
  ds.foldlM (fun acc c =>
    let next := acc * 10 + (c.toNat - 48)
    if limit / 10 < acc ∨ limit < next then none else some next) 0

/-- The digits after a point as a numerator, with the power of ten below it. Digits that would pass
the limit are dropped. -/
def fraction (ds : List Char) : Nat × Nat :=
  go 0 0 ds
where
  go (acc places : Nat) : List Char → Nat × Nat
    | [] => (acc, places)
    | c :: cs =>
        let next := acc * 10 + (c.toNat - 48)
        if (limit - 1) / 10 < acc ∨ limit < next then (acc, places) else go next (places + 1) cs

/-- A fraction of a unit in whole nanoseconds, computed in binary64. -/
def fractionOf (unit : Nat) (f : Nat × Nat) : Nat :=
  if f.1 = 0 then 0
  else
    let scale := (List.replicate f.2 (10.0 : Float)).foldl (· * ·) 1.0
    let x := f.1.toUInt64.toFloat * (unit.toUInt64.toFloat / scale)
    ((Binary64.ofFloat x).trunc?.getD 0).toNat

/-- One number with its unit: the nanoseconds, and the text after it. -/
def component (cs : List Char) : Except Fault (Nat × List Char) := do
  let ds := cs.takeWhile Decimal.isDigit
  let afterWhole := cs.drop ds.length
  let some value := whole? ds | .error .malformed
  let (fs, rest) :=
    match afterWhole with
    | '.' :: after => (after.takeWhile Decimal.isDigit, after.dropWhile Decimal.isDigit)
    | _ => ([], afterWhole)
  if ds.isEmpty && fs.isEmpty then .error .malformed
  let name := rest.takeWhile fun c => !(c = '.' || Decimal.isDigit c)
  if name.isEmpty then .error .missingUnit
  let some unit := unit? name | .error (.unknownUnit name)
  if limit / unit < value then .error .malformed
  let total := value * unit + fractionOf unit (fraction fs)
  if limit < total then .error .malformed
  return (total, rest.drop name.length)

/-- The sum of all components. Sums are words of 64 bits. The fuel is the number of characters, of
which every component takes at least one. -/
def components : Nat → Nat → List Char → Except Fault Nat
  | _, acc, [] => .ok acc
  | 0, _, _ => .error .malformed
  | fuel + 1, acc, cs => do
      let (n, rest) ← component cs
      let acc := (acc + n) % Nat.pow 2 64
      if limit < acc then .error .malformed
      components fuel acc rest

/-- Reads a duration. A lone zero needs no unit. -/
def parse (cs : List Char) : Except Fault Int := do
  let (negative, body) :=
    match cs with
    | '-' :: rest => (true, rest)
    | '+' :: rest => (false, rest)
    | _ => (false, cs)
  if body = ['0'] then return 0
  if body.isEmpty then .error .malformed
  let n ← components body.length 0 body
  if negative then return -(n : Int)
  if n = limit then .error .malformed
  return n

end Ricochet.Duration
