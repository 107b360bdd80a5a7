import Ricochet.Decimal.Digits

set_option autoImplicit false

/-! # Dates and times

A plain scalar that is a date, or a date with a time of day, is a timestamp and neither a number nor
a text. The year has four digits and the other parts one or two; the day must exist in its month. A
time follows after `T`, `t` or a space, may have a fraction of a second, and has a zone after `T` or
`t` and none after a space, of which there may be several.
-/

namespace Ricochet.Yaml

/-- How many days a month has. -/
def daysIn (year month : Nat) : Nat :=
  if month = 2 then
    if year % 4 = 0 ∧ (year % 100 ≠ 0 ∨ year % 400 = 0) then 29 else 28
  else if month = 4 ∨ month = 6 ∨ month = 9 ∨ month = 11 then 30
  else 31

/-- Reads one or two digits. -/
def shortNumber? : List Char → Option (Nat × List Char)
  | a :: b :: rest =>
      match Decimal.digit? a, Decimal.digit? b with
      | some x, some y => some (x * 10 + y, rest)
      | some x, none => some (x, b :: rest)
      | none, _ => none
  | [a] => (Decimal.digit? a).map fun x => (x, [])
  | [] => none

/-- Reads exactly two digits. -/
def twoDigits? : List Char → Option (Nat × List Char)
  | a :: b :: rest => do
      let x ← Decimal.digit? a
      let y ← Decimal.digit? b
      some (x * 10 + y, rest)
  | _ => none

/-- Reads one given character. -/
def expect? (c : Char) : List Char → Option (List Char)
  | d :: rest => if c = d then some rest else none
  | [] => none

/-- Reads a date, and gives the rest of the text. -/
def date? (cs : List Char) : Option (List Char) := do
  let digits := cs.takeWhile Decimal.isDigit
  if digits.length ≠ 4 then none
  else
    let year ← Decimal.valueIn? 10 digits
    let cs ← expect? '-' (cs.drop 4)
    let (month, cs) ← shortNumber? cs
    let cs ← expect? '-' cs
    let (day, cs) ← shortNumber? cs
    if 1 ≤ month ∧ month ≤ 12 ∧ 1 ≤ day ∧ day ≤ daysIn year month then some cs else none

/-- Passes over a fraction of a second: a point or a comma, and digits. -/
def skipFraction : List Char → List Char
  | p :: d :: rest =>
      if (p = '.' ∨ p = ',') ∧ Decimal.isDigit d then rest.dropWhile Decimal.isDigit
      else p :: d :: rest
  | cs => cs

/-- Reads a time of day, and gives the rest of the text. -/
def clock? (cs : List Char) : Option (List Char) := do
  let (hour, cs) ← shortNumber? cs
  let cs ← expect? ':' cs
  let (minute, cs) ← shortNumber? cs
  let cs ← expect? ':' cs
  let (second, cs) ← shortNumber? cs
  if hour < 24 ∧ minute < 60 ∧ second < 60 then some (skipFraction cs) else none

/-- Whether a text is a zone: `Z`, or a signed offset in hours and minutes. -/
def isZone : List Char → Bool
  | ['Z'] => true
  | sign :: rest =>
      (sign = '+' || sign = '-') &&
        match twoDigits? rest with
        | some (hours, ':' :: rest) =>
            match twoDigits? rest with
            | some (minutes, []) => decide (hours ≤ 24 ∧ minutes ≤ 60)
            | _ => false
        | _ => false
  | [] => false

/-- Whether a text is a date or a date with a time. -/
def isTimestamp (cs : List Char) : Bool :=
  match date? cs with
  | none => false
  | some [] => true
  | some (c :: rest) =>
      if c = 'T' || c = 't' then ((clock? rest).map isZone).getD false
      else c = ' ' && clock? (rest.dropWhile (· = ' ')) = some []

end Ricochet.Yaml
