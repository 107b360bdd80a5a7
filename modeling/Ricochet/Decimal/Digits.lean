set_option autoImplicit false

/-! # Decimal digits

Writing natural numbers and decimal fractions as text, and reading runs of digits. All functions
work on lists of characters.
-/

namespace Ricochet.Decimal

/-- A digit below sixteen as a character, letters in lower case. -/
def digitChar (d : Nat) : Char :=
  if d < 10 then Char.ofNat (48 + d) else Char.ofNat (87 + d)

/-- The decimal digits of a natural number, most significant first, without leading zeros. -/
def natChars (n : Nat) : List Char := Nat.toDigits 10 n

/-- The decimal text of an integer. -/
def intText (n : Int) : String :=
  match n with
  | .ofNat k => String.ofList (natChars k)
  | .negSucc k => String.ofList ('-' :: natChars (k + 1))

/-- `n` in at least `width` hexadecimal digits, filled with zeros on the left. -/
def hexChars (width n : Nat) : List Char :=
  let ds := Nat.toDigits 16 n
  List.replicate (width - ds.length) '0' ++ ds

/-- The value of a decimal digit. -/
def digit? (c : Char) : Option Nat :=
  if '0' ≤ c ∧ c ≤ '9' then some (c.toNat - 48) else none

/-- The value of a hexadecimal digit of either case. -/
def hexDigit? (c : Char) : Option Nat :=
  if '0' ≤ c ∧ c ≤ '9' then some (c.toNat - 48)
  else if 'a' ≤ c ∧ c ≤ 'f' then some (c.toNat - 87)
  else if 'A' ≤ c ∧ c ≤ 'F' then some (c.toNat - 55)
  else none

/-- Whether a character is one of `0 … 9`. -/
def isDigit (c : Char) : Bool := (digit? c).isSome

/-- The number that a run of digits stands for in a base; `none` when a character is no digit of
that base. The empty run stands for zero. -/
def valueIn? (base : Nat) (cs : List Char) : Option Nat :=
  cs.foldlM (fun acc c =>
    match hexDigit? c with
    | some d => if d < base then some (acc * base + d) else none
    | none => none) 0

end Ricochet.Decimal
