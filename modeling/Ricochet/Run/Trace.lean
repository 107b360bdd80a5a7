import Ricochet.Decimal.Fixed
import Ricochet.Run.Headless
import Ricochet.Text.Padding

set_option autoImplicit false

/-! # Tracing a run

A trace writes every frame as text, either as one line per ball or as one table per frame. It is a
renderer over any writer; each line, or each table, is one write, and the first write that fails
ends the frame.
-/

namespace Ricochet.Run

variable {ω ε : Type}

/-- How a frame is written. -/
inductive TraceFormat where
  | lines
  | table
  deriving DecidableEq, Repr

/-- Numbers in a trace have three decimal places. -/
def traceNumber (x : Float) : String := Decimal.fixed 3 x

/-- The colour of a ball in a trace; a dash stands for the terminal's own. -/
def traceColor (c : Color) : String := if c.set then c.hex else "-"

/-- What a trace tells about a ball, field by field. -/
def traceFields (b : Ball Float) : List String :=
  [Decimal.intText b.id, traceNumber b.x.pos, traceNumber b.y.pos, traceNumber b.x.vel,
    traceNumber b.y.vel, traceNumber b.radius, traceColor b.color]

/-- The line of a ball: the frame and the fields, one space apart. -/
def traceLine (frame : UInt64) (b : Ball Float) : String :=
  " ".intercalate (Decimal.intText frame.toNat :: traceFields b) ++ "\n"

/-! ## Tables -/

/-- The headings of the table. -/
def traceHeadings : List String := ["ID", "X", "Y", "VX", "VY", "R", "COLOR"]

/-- The width of each column: that of its widest cell. -/
def columnWidths (rows : List (List String)) : List Nat :=
  rows.foldl (fun widths row => List.zipWith max widths (row.map String.length))
    (traceHeadings.map String.length)

/-- A row of cells between bars, each filled up to the width of its column. -/
def tableRow (widths : List Nat) (cells : List String) : String :=
  "│" ++ "│".intercalate (List.zipWith Text.padRight widths cells) ++ "│\n"

/-- A rule across the table. -/
def tableRule (widths : List Nat) (left mid right : String) : String :=
  left ++ mid.intercalate (widths.map fun w => String.ofList (List.replicate w '─')) ++ right
    ++ "\n"

/-- The table of a frame, under its number. -/
def traceTable (frame : UInt64) (balls : List (Ball Float)) : String :=
  let rows := balls.map traceFields
  let widths := columnWidths rows
  "frame " ++ Decimal.intText frame.toNat ++ "\n"
    ++ tableRule widths "┌" "┬" "┐"
    ++ tableRow widths traceHeadings
    ++ tableRule widths "├" "┼" "┤"
    ++ String.join (rows.map (tableRow widths))
    ++ tableRule widths "└" "┴" "┘"

/-! ## The renderer -/

/-- A writer of state `ω`: it takes a text or fails, in which case nothing of the text is taken. -/
abbrev Writer (ω ε : Type) : Type := ω → String → Except ε ω

/-- Writes texts in order, up to the first that fails. -/
def writeAll (write : Writer ω ε) : ω → List String → ω × Option ε
  | w, [] => (w, none)
  | w, text :: texts =>
      match write w text with
      | .ok w => writeAll write w texts
      | .error e => (w, some e)

/-- A trace: the writer, and the frames drawn so far. -/
structure Trace (ω : Type) where
  out : ω
  frame : UInt64

/-- The writes of one frame. -/
def traceWrites (format : TraceFormat) (frame : UInt64) (balls : List (Ball Float)) : List String :=
  match format with
  | .lines => balls.map (traceLine frame)
  | .table => [traceTable frame balls]

/-- Draws a frame by writing it. Frames are numbered from one. -/
def Trace.draw (write : Writer ω ε) (format : TraceFormat) : Renderer (Trace ω) ε Float :=
  fun t _ balls =>
    let frame := t.frame + 1
    let (out, error) := writeAll write t.out (traceWrites format frame balls)
    (⟨out, frame⟩, error)

/-! ## A page of limited size -/

/-- The one way in which writing to a page fails. -/
inductive PageError where
  | full
  deriving DecidableEq, Repr

/-- The words of a failed write. -/
def PageError.message : PageError → String
  | .full => "disk full"

/-- Text collected so far, latest write first, its size in bytes, and the greatest size if there is
one. -/
structure Page where
  writes : List String
  size : Nat
  limit : Option Nat

namespace Page

/-- An empty page. -/
def empty (limit : Option Nat) : Page := ⟨[], 0, limit⟩

/-- The text of a page. -/
def text (p : Page) : String := String.join p.writes.reverse

/-- Writes to a page. A write that would not fit fails whole. -/
def write : Writer Page PageError := fun p text =>
  let size := p.size + text.utf8ByteSize
  if p.limit.any (· < size) then .error .full
  else .ok { p with writes := text :: p.writes, size := size }

end Page

end Ricochet.Run
