import Ricochet.Text.LowerCase
import Ricochet.Text.Printable
import Ricochet.Text.Quoted

set_option autoImplicit false

/-! # Log lines

A log record has a level, a message and named values. It is written as one line of text: an optional
time, the level, an optional name of the program, the message, and the values as `key=value`. A
value that would not read back as one word is put in quotes, and a value of several lines is written
below its key, each line behind a bar.
-/

namespace Ricochet.Log

/-- How much a record matters. -/
inductive Level where
  | debug
  | info
  | warn
  | error
  | fatal
  deriving DecidableEq, Repr

namespace Level

/-- The rank of a level; more important levels rank higher. -/
def rank : Level → Nat
  | .debug => 0
  | .info => 1
  | .warn => 2
  | .error => 3
  | .fatal => 4

/-- The four letters that stand for a level in a line. -/
def label : Level → String
  | .debug => "DEBU"
  | .info => "INFO"
  | .warn => "WARN"
  | .error => "ERRO"
  | .fatal => "FATA"

/-- Reads the name of a level, in letters of any case. -/
def parse? (name : String) : Option Level :=
  let name := Text.lowered name
  if name = "debug" then some .debug
  else if name = "info" then some .info
  else if name = "warn" then some .warn
  else if name = "error" then some .error
  else if name = "fatal" then some .fatal
  else none

/-- The message of a name that is no level. -/
def unknownMessage (name : String) : String := "invalid level: " ++ Text.quote name

end Level

/-- A record: level, message and named values, in order. -/
structure Record where
  level : Level
  message : String
  values : List (String × String)
  deriving DecidableEq, Repr

/-- White space of any script. -/
def isSpace (c : Char) : Bool :=
  let n := c.toNat
  (9 ≤ n && n ≤ 13) || n = 0x20 || n = 0x85 || n = 0xA0 || n = 0x1680 || (0x2000 ≤ n && n ≤ 0x200A)
    || n = 0x2028 || n = 0x2029 || n = 0x202F || n = 0x205F || n = 0x3000

/-- Whether a character puts its value in quotes. -/
def needsQuotes (c : Char) : Bool :=
  isSpace c || c = '"' || c = '=' || c = Utf8.replacement || !Text.isPrintable c

/-- A character inside a value. Of the printable characters only the quote is escaped, and only
where it would end the value. -/
def escapedChar (escapeQuote : Bool) (c : Char) : List Char :=
  if c = '"' ∧ escapeQuote then ['\\', '"']
  else if Text.isPrintable c then [c]
  else
    match Text.controlLetter? c with
    | some l => ['\\', l]
    | none =>
        let n := c.toNat
        if n < 0x20 then '\\' :: 'x' :: Decimal.hexChars 2 n
        else if n < 0x10000 then '\\' :: 'u' :: Decimal.hexChars 4 n
        else '\\' :: 'U' :: Decimal.hexChars 8 n

/-- A value with its characters escaped. -/
def escaped (escapeQuote : Bool) (value : String) : String :=
  String.ofList (value.toList.flatMap (escapedChar escapeQuote))

/-- The lines of a value behind bars. An empty last line is left out; after the others follows a
newline, after the last one only if more values come. -/
def barred (more : Bool) (value : String) : String :=
  let lines := value.splitOn "\n"
  let bar (line : String) : String := "  │ " ++ escaped false line
  let front := String.join (lines.dropLast.map fun line => bar line ++ "\n")
  match lines.getLast? with
  | some last => if last = "" then front else front ++ bar last ++ if more then "\n" else ""
  | none => front

/-- A named value. `more` tells whether another one follows. -/
def valueText (more : Bool) (key value : String) : String :=
  if value.toList.contains '\n' then
    "\n  " ++ key ++ "=\n" ++ barred more value ++ if more then " " else ""
  else if value = "" then " " ++ key ++ "=\"\""
  else if value.toList.any needsQuotes then " " ++ key ++ "=\"" ++ escaped true value ++ "\""
  else " " ++ key ++ "=" ++ value

/-- Named values in order. -/
def valuesText : List (String × String) → String
  | [] => ""
  | (key, value) :: rest => valueText (!rest.isEmpty) key value ++ valuesText rest

/-- How the lines of a log begin, and which records it takes. -/
structure Format where
  /-- The time put before each line, if lines carry one. -/
  time : Option String
  /-- The name put before each message, if there is one. -/
  name : Option String
  /-- The least level that is written. -/
  least : Level
  deriving DecidableEq, Repr

namespace Format

/-- Whether a record is written at all. -/
def takes (f : Format) (r : Record) : Bool := decide (f.least.rank ≤ r.level.rank)

/-- The line of a record, with its newline. -/
def line (f : Format) (r : Record) : String :=
  let time := match f.time with
    | some t => t ++ " "
    | none => ""
  let name := match f.name with
    | some n => n ++ ": "
    | none => ""
  time ++ r.level.label ++ " " ++ name ++ r.message ++ valuesText r.values ++ "\n"

/-- The lines of the records that the log takes. -/
def lines (f : Format) (rs : List Record) : String := String.join ((rs.filter f.takes).map f.line)

end Format

end Ricochet.Log
