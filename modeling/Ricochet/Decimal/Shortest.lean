import Ricochet.Decimal.Fixed

set_option autoImplicit false

/-! # The shortest decimal that reads back

A finite positive binary64 number `m · 2 ^ e` is the nearest one to every real number in an interval
around it. `shortest` finds the fewest decimal digits that name a point of that interval: for one,
two, three … digits it tries the two neighbours of the value on that decimal grid, and the first
grid with a hit wins. Of two hits the nearer is taken, and of two equally near ones the even one.

`NumberFormat` then decides how the digits are laid out.
-/

namespace Ricochet.Decimal

/-- Digits `d₁ d₂ … dₙ` and the position of the decimal point: the value is
`0.d₁d₂…dₙ · 10 ^ point`. -/
structure Scientific where
  digits : List Nat
  point : Int
  deriving DecidableEq, Repr

/-- A number together with the ends of the interval of reals that round to it, all over one
denominator: `low / den`, `value / den`, `high / den`. The ends belong to it when `closed`. -/
structure Interval where
  low : Nat
  value : Nat
  high : Nat
  den : Nat
  closed : Bool

namespace Interval

/-- The interval of `mantissa · 2 ^ exponent`. The gap below is half as wide when the mantissa is
the least of its binade and there is a smaller binade; the ends round to an even mantissa. -/
def ofBinary (mantissa : Nat) (exponent : Int) : Interval :=
  let (scale, den) := quotient 1 (exponent - 2)
  let below := if mantissa = Nat.pow 2 52 ∧ exponent ≠ -1074 then 1 else 2
  { low := (4 * mantissa - below) * scale
    value := 4 * mantissa * scale
    high := (4 * mantissa + 2) * scale
    den := den
    closed := mantissa % 2 = 0 }

/-- Whether `num / (iv.den · k)` lies in the interval. -/
def contains (iv : Interval) (k num : Nat) : Bool :=
  if iv.closed then decide (iv.low * k ≤ num ∧ num ≤ iv.high * k)
  else decide (iv.low * k < num ∧ num < iv.high * k)

/-- Whether the value is less than `10 ^ point`. -/
def below (iv : Interval) (point : Int) : Bool :=
  match point with
  | .ofNat up => decide (iv.value < Nat.pow 10 up * iv.den)
  | .negSucc down => decide (iv.value * Nat.pow 10 (down + 1) < iv.den)

/-- The position of the decimal point: the least `point` with value `< 10 ^ point`, looked for
upward from a place at or below it. -/
def pointFrom (iv : Interval) : Nat → Int → Int
  | 0, point => point
  | fuel + 1, point => if iv.below point then point else pointFrom iv fuel (point + 1)

/-- The decimal point of the value. The binary logarithm times `log₁₀ 2` is within two of it. -/
def point (iv : Interval) : Int :=
  let bits : Int := (Nat.log2 iv.value : Int) - (Nat.log2 iv.den : Int)
  iv.pointFrom 8 ((bits * 30103).fdiv 100000 - 2)

/-- The point of the decimal grid with `n` digits that names the value, if one does. Grid points
are natural numbers `g`, standing for `g · 10 ^ (point - n)`. -/
def gridHit (iv : Interval) (point : Int) (n : Nat) : Option Nat :=
  -- one unit of the grid is `10 ^ (point - n)`; `k` and `u` put grid and value over one denominator
  let (k, u) : Nat × Nat :=
    match point - n with
    | .ofNat up => (1, Nat.pow 10 up * iv.den)
    | .negSucc down => (Nat.pow 10 (down + 1), iv.den)
  let g := iv.value * k / u
  let low := iv.contains k (g * u)
  let high := iv.contains k ((g + 1) * u)
  let r := iv.value * k - g * u
  match low, high with
  | true, true =>
      if 2 * r < u then some g
      else if u < 2 * r then some (g + 1)
      else some (if g % 2 = 0 then g else g + 1)
  | true, false => some g
  | false, true => some (g + 1)
  | false, false => none

/-- The first grid with a hit, from `n` digits on. Seventeen digits always name the value. -/
def firstHit (iv : Interval) (point : Int) : Nat → Nat → Nat × Nat
  | 0, n => (iv.value * Nat.pow 10 n / iv.den, n)
  | fuel + 1, n =>
      match iv.gridHit point n with
      | some g => (g, n)
      | none => firstHit iv point fuel (n + 1)

end Interval

/-- The shortest digits of the positive number `mantissa · 2 ^ exponent`. -/
def shortest (mantissa : Nat) (exponent : Int) : Scientific :=
  let iv := Interval.ofBinary mantissa exponent
  let point := iv.point
  let (g, n) := iv.firstHit point 20 1
  -- rounding up may reach `10 ^ n`, which has one digit more and stands one place further left
  if g = Nat.pow 10 n then ⟨[1], point + 1⟩
  else ⟨(natChars g).map (fun c => c.toNat - 48), point⟩

/-- How digits are laid out as text. -/
structure NumberFormat where
  /-- Exponents (of the first digit) below this are written in exponent form. -/
  leastPlain : Int
  /-- Exponents from this one on are written in exponent form. -/
  firstLarge : Int
  /-- The least number of digits of a written exponent. -/
  exponentDigits : Nat

namespace NumberFormat

/-- Digits without an exponent: zeros fill the places between the digits and the point. -/
def plain (s : Scientific) : List Char :=
  let ds := s.digits.map digitChar
  match s.point with
  | .ofNat p =>
      let whole := ds.take p ++ List.replicate (p - ds.length) '0'
      let whole := if whole.isEmpty then ['0'] else whole
      match ds.drop p with
      | [] => whole
      | rest => whole ++ '.' :: rest
  | .negSucc p => '0' :: '.' :: (List.replicate (p + 1) '0' ++ ds)

/-- One digit, a point and the other digits, and a signed exponent. -/
def withExponent (f : NumberFormat) (s : Scientific) : List Char :=
  let exponent := s.point - 1
  let body :=
    match s.digits.map digitChar with
    | [] => ['0']
    | [d] => [d]
    | d :: rest => d :: '.' :: rest
  let ex := natChars exponent.natAbs
  let ex := List.replicate (f.exponentDigits - ex.length) '0' ++ ex
  body ++ 'e' :: (if exponent < 0 then '-' else '+') :: ex

/-- The layout of digits by the size of the number. -/
def layout (f : NumberFormat) (s : Scientific) : List Char :=
  if s.point - 1 < f.leastPlain ∨ f.firstLarge ≤ s.point - 1 then f.withExponent s else plain s

/-- The text of a number. -/
def text (f : NumberFormat) (x : Float) : String :=
  match Binary64.ofFloat x with
  | .nan => "NaN"
  | .infinite false => "+Inf"
  | .infinite true => "-Inf"
  | .finite negative m e =>
      let body := if m = 0 then ['0'] else f.layout (shortest m e)
      String.ofList (if negative then '-' :: body else body)

end NumberFormat

/-- Numbers in messages: plain from `0.0001` up to below a million, otherwise with an exponent of at
least two digits. -/
def messageNumber : NumberFormat := { leastPlain := -4, firstLarge := 6, exponentDigits := 2 }

end Ricochet.Decimal
