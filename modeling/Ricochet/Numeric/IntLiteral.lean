import Ricochet.Numeric.Word
import Ricochet.Decimal.Digits

set_option autoImplicit false

/-! # Integers as written by a person

An integer may be written in decimal, or with a mark of its base: `0x` hexadecimal, `0o` or a
leading `0` octal, `0b` binary, the letter in either case. A single underscore may stand between
digits and after the mark. `parseSigned` and `parseUnsigned` read 64-bit words; what does not read
is told apart as ill-formed or out of range.
-/

namespace Ricochet.IntLiteral

/-- Why a text is not a word of the wanted kind. -/
inductive Fault where
  | syntaxFault
  | outOfRange
  deriving DecidableEq, Repr

/-- The words of a fault, as messages have them. -/
def Fault.reason : Fault → String
  | .syntaxFault => "invalid syntax"
  | .outOfRange => "value out of range"

/-- The base mark at the head of a text without sign: the base and the digits after it. -/
def splitBase : List Char → Nat × List Char
  | '0' :: m :: d :: cs =>
      if m = 'b' ∨ m = 'B' then (2, d :: cs)
      else if m = 'o' ∨ m = 'O' then (8, d :: cs)
      else if m = 'x' ∨ m = 'X' then (16, d :: cs)
      else (8, m :: d :: cs)
  | '0' :: cs => (8, cs)
  | cs => (10, cs)

/-- Whether every underscore of a text without sign follows a digit or the base mark, and a digit
follows it. -/
def underscoresFit (cs : List Char) : Bool :=
  match cs with
  | '0' :: m :: rest =>
      if m = 'x' ∨ m = 'X' then go true true rest
      else if m = 'b' ∨ m = 'B' ∨ m = 'o' ∨ m = 'O' then go false true rest
      else go false false cs
  | _ => go false false cs
where
  /-- `hex` admits the digits above nine; `after` tells whether a digit or mark came before. -/
  go (hex after : Bool) : List Char → Bool
    | [] => true
    | ['_'] => false
    | '_' :: c :: cs => after && isDigitOf hex c && go hex true cs
    | c :: cs => go hex (isDigitOf hex c) cs
  /-- A digit of a decimal or a hexadecimal number. -/
  isDigitOf (hex : Bool) (c : Char) : Bool :=
    if hex then (Decimal.hexDigit? c).isSome else (Decimal.digit? c).isSome

/-- One more digit of a 64-bit magnitude; underscores are passed over. -/
def pushDigit (base acc : Nat) (c : Char) : Except Fault Nat :=
  if c = '_' then .ok acc
  else
    match Decimal.hexDigit? c with
    | none => .error .syntaxFault
    | some d =>
        if base ≤ d then .error .syntaxFault
        else if acc * base + d < Nat.pow 2 64 then .ok (acc * base + d)
        else .error .outOfRange

/-- Reads an unsigned 64-bit word; no sign is allowed. Digits are taken from the left, so a number
that is too large is out of range whatever follows. -/
def parseUnsigned (cs : List Char) : Except Fault Nat :=
  if cs.isEmpty then .error .syntaxFault
  else
    let (base, digits) := splitBase cs
    match digits.foldlM (pushDigit base) 0 with
    | .error fault => .error fault
    | .ok n => if underscoresFit cs then .ok n else .error .syntaxFault

/-- Reads a signed 64-bit word, with an optional sign. -/
def parseSigned (cs : List Char) : Except Fault Int :=
  let (negative, digits) :=
    match cs with
    | '+' :: rest => (false, rest)
    | '-' :: rest => (true, rest)
    | _ => (false, cs)
  match parseUnsigned digits with
  | .error fault => .error fault
  | .ok n =>
      let k : Int := if negative then -(n : Int) else n
      if minWord ≤ k ∧ k ≤ maxWord then .ok k else .error .outOfRange

end Ricochet.IntLiteral
