import Ricochet.Decimal.Digits
import Ricochet.Random.Source

set_option autoImplicit false

/-! # Replayed draws

A source that gives out two fixed lists, each over and over, and keeps a record of what was asked
for. It makes the draws of a field visible.
-/

namespace Ricochet

/-- What was drawn: a fraction, or an integer below a bound. -/
inductive DrawKind where
  | fraction
  | below (bound : Nat)
  deriving DecidableEq, Repr

/-- The lists to give out, how far each has been used, and the record, latest first. -/
structure Replay where
  fractions : Array Float
  integers : Array Int
  fractionsUsed : Nat
  integersUsed : Nat
  record : List DrawKind

namespace Replay

/-- The lists before any draw. -/
def ofLists (fractions : Array Float) (integers : Array Int) : Replay :=
  { fractions, integers, fractionsUsed := 0, integersUsed := 0, record := [] }

/-- Whether both lists have something to give out. -/
def isUsable (r : Replay) : Bool := !r.fractions.isEmpty && !r.integers.isEmpty

/-- The lists as a source. An integer is reduced modulo the bound, with the sign of the integer. -/
def source : Source Replay Float where
  fraction r :=
    ((r.fractions[r.fractionsUsed % r.fractions.size]?).getD 0.0,
      { r with fractionsUsed := r.fractionsUsed + 1, record := .fraction :: r.record })
  below n r :=
    (((r.integers[r.integersUsed % r.integers.size]?).getD 0).tmod n,
      { r with integersUsed := r.integersUsed + 1, record := .below n :: r.record })

/-- One drawn thing as text. -/
def kindText : DrawKind → String
  | .fraction => "F"
  | .below n => "I" ++ Decimal.intText n

/-- The record as text, earliest first. -/
def recordText (r : Replay) : String := String.join (r.record.reverse.map kindText)

end Replay

end Ricochet
