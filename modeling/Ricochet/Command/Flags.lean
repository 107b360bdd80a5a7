import Ricochet.Numeric.IntLiteral
import Ricochet.Text.Quoted
import Ricochet.Time.Duration

set_option autoImplicit false

/-! # Flags of the command line

A flag has a name and a kind of value. Flags are written `--name value` or `--name=value`; a yes-no
flag stands alone or with `=value`. They may stand anywhere among the other arguments, the last one
of a name wins, and after `--` everything is an argument.
-/

namespace Ricochet.Command

/-- What kind of value a flag takes. -/
inductive FlagKind where
  | signed
  | unsigned
  | text
  | switch
  | duration
  deriving DecidableEq, Repr

/-- The word for a kind of value. -/
def FlagKind.word : FlagKind → String
  | .signed => "int"
  | .unsigned => "uint"
  | .text => "string"
  | .switch => ""
  | .duration => "duration"

/-- A flag that a command knows. -/
structure Flag where
  name : String
  kind : FlagKind
  /-- The letter that stands for the flag, if it has one. -/
  letter : Option Char
  /-- What the flag is for. -/
  about : String
  /-- The value when the flag is not given, as help shows it, if help does. -/
  fallback : Option String
  deriving DecidableEq, Repr

/-- The flags that every command knows. -/
def sharedFlags : List Flag := [
  ⟨"fps", .signed, none, "Frames per second (0 = use the demo's pause)", none⟩,
  ⟨"seed", .signed, none, "RNG seed (0 = random based on time)", none⟩,
  ⟨"config", .text, none, "Path to custom demo config YAML", none⟩,
  ⟨"speed", .text, none, "Speed preset: slow, normal, fast", some "\"normal\""⟩,
  ⟨"log-level", .text, none, "Log level: debug, info, warn, error", some "\"info\""⟩,
  ⟨"log-file", .text, none, "Append logs to this file", none⟩]

/-- The flags of headless runs. -/
def traceFlags : List Flag := [
  ⟨"steps", .unsigned, none, "Number of steps (0 = until interrupted)", some "100"⟩,
  ⟨"table", .switch, none, "Print each step as a table", none⟩,
  ⟨"interval", .duration, none, "Delay between steps", none⟩]

/-- The flag that asks for help about a command. -/
def helpFlag (command : String) : Flag :=
  ⟨"help", .switch, some 'h', "help for " ++ command, none⟩

/-- The value of a flag. -/
inductive FlagValue where
  | signed (n : Int)
  | unsigned (n : Nat)
  | text (s : String)
  | switch (on : Bool)
  | duration (nanoseconds : Int)
  deriving DecidableEq, Repr

/-- Why a text is no value of its kind. -/
inductive ValueFault where
  | signed (fault : IntLiteral.Fault)
  | unsigned (fault : IntLiteral.Fault)
  | switch
  | duration (fault : Duration.Fault)
  deriving DecidableEq, Repr

/-- The words of a value that cannot be read. -/
def ValueFault.message (value : String) : ValueFault → String
  | .signed f => "strconv.ParseInt: parsing " ++ Text.quote value ++ ": " ++ f.reason
  | .unsigned f => "strconv.ParseUint: parsing " ++ Text.quote value ++ ": " ++ f.reason
  | .switch => "strconv.ParseBool: parsing " ++ Text.quote value ++ ": invalid syntax"
  | .duration f => f.message value.toList

/-- Reads a yes-no value. -/
def switch? (s : String) : Option Bool :=
  if s ∈ ["1", "t", "T", "true", "TRUE", "True"] then some true
  else if s ∈ ["0", "f", "F", "false", "FALSE", "False"] then some false
  else none

/-- Reads a value of a kind. -/
def FlagKind.parse (kind : FlagKind) (value : String) : Except ValueFault FlagValue :=
  match kind with
  | .signed => (IntLiteral.parseSigned value.toList).map .signed |>.mapError .signed
  | .unsigned => (IntLiteral.parseUnsigned value.toList).map .unsigned |>.mapError .unsigned
  | .text => .ok (.text value)
  | .switch =>
      match switch? value with
      | some on => .ok (.switch on)
      | none => .error .switch
  | .duration => (Duration.parse value.toList).map .duration |>.mapError .duration

/-- What is wrong with a flag on the command line. -/
inductive FlagError where
  | badSyntax (argument : String)
  | unknown (name : String)
  | unknownLetter (letter : Char) (letters : String)
  | needsValue (name : String)
  | badValue (flag : Flag) (value : String) (fault : ValueFault)
  deriving DecidableEq, Repr

/-- A flag as messages name it. -/
def Flag.shown (f : Flag) : String :=
  match f.letter with
  | some c => "-" ++ String.singleton c ++ ", --" ++ f.name
  | none => "--" ++ f.name

/-- A letter between single quotes. Only ASCII letters name flags, and all others are shown
alike. -/
def quotedLetter (letter : Char) : String :=
  let c := if letter.toNat < 0x80 then letter else 'Ã'
  let body := if c = '\'' then ['\\', '\''] else if c = '"' then ['"'] else Text.quotedChar c
  String.ofList ('\'' :: (body ++ ['\'']))

/-- The message of a flag error. -/
def FlagError.message : FlagError → String
  | .badSyntax argument => "bad flag syntax: " ++ argument
  | .unknown name => "unknown flag: --" ++ name
  | .unknownLetter letter letters =>
      "unknown shorthand flag: " ++ quotedLetter letter ++ " in -" ++ letters
  | .needsValue name => "flag needs an argument: --" ++ name
  | .badValue flag value fault =>
      "invalid argument " ++ Text.quote value ++ " for " ++ Text.quote flag.shown ++ " flag: "
        ++ fault.message value

/-- What was read off the command line: the flags in order, and the other arguments. -/
structure Parsed where
  flags : List (String × FlagValue)
  arguments : List String
  deriving DecidableEq, Repr

/-- The text before and after the first equals sign. -/
def splitEquals (cs : List Char) : List Char × Option (List Char) :=
  match cs.dropWhile (· ≠ '=') with
  | [] => (cs, none)
  | _ :: after => (cs.takeWhile (· ≠ '='), some after)

/-- Reads a value for a flag. -/
def Flag.read (f : Flag) (value : String) : Except FlagError (String × FlagValue) :=
  match f.kind.parse value with
  | .ok v => .ok (f.name, v)
  | .error e => .error (.badValue f value e)

/-- Reads one long flag, whose name and value follow the two dashes, given the arguments after it.
Returns the flag and the arguments that are left. -/
def readLong (known : List Flag) (argument : String) (body : List Char) (rest : List String) :
    Except FlagError ((String × FlagValue) × List String) := do
  if body.head? = some '-' ∨ body.head? = some '=' then .error (.badSyntax argument)
  let (name, value?) := splitEquals body
  let name := String.ofList name
  let some flag := known.find? (·.name = name) | .error (.unknown name)
  match value?, flag.kind, rest with
  | some value, _, _ => return (← flag.read (String.ofList value), rest)
  | none, .switch, _ => return (← flag.read "true", rest)
  | none, _, value :: rest => return (← flag.read value, rest)
  | none, _, [] => .error (.needsValue name)

/-- Reads flags given by single letters, of which only yes-no flags have any. A letter may be
followed by an equals sign and a value. Letters that begin with `test.` are passed over. -/
def readLetters (known : List Flag) : List Char → Except FlagError (List (String × FlagValue))
  | [] => .ok []
  | c :: cs => do
      if ['t', 'e', 's', 't', '.'].isPrefixOf (c :: cs) then return []
      let letters := String.ofList (c :: cs)
      let some flag := known.find? (·.letter = some c) | .error (.unknownLetter c letters)
      match cs with
      | '=' :: d :: value => return [← flag.read (String.ofList (d :: value))]
      | _ =>
          let first ← flag.read "true"
          return first :: (← readLetters known cs)

/-- Reads a command line. The fuel is the number of arguments. -/
def parseWithin (known : List Flag) : Nat → List String → Except FlagError Parsed
  | 0, _ => .ok ⟨[], []⟩
  | _, [] => .ok ⟨[], []⟩
  | fuel + 1, argument :: rest =>
      match argument.toList with
      | '-' :: '-' :: [] => .ok ⟨[], rest⟩
      | '-' :: '-' :: body => do
          let (flag, rest) ← readLong known argument body rest
          let parsed ← parseWithin known fuel rest
          return { parsed with flags := flag :: parsed.flags }
      | '-' :: c :: cs => do
          let flags ← readLetters known (c :: cs)
          let parsed ← parseWithin known fuel rest
          return { parsed with flags := flags ++ parsed.flags }
      | _ => do
          let parsed ← parseWithin known fuel rest
          return { parsed with arguments := argument :: parsed.arguments }

/-- Reads a command line. -/
def parse (known : List Flag) (arguments : List String) : Except FlagError Parsed :=
  parseWithin known arguments.length arguments

namespace Parsed

/-- The last value given to a flag. -/
def value? (p : Parsed) (name : String) : Option FlagValue := p.flags.reverse.lookup name

/-- The integer given to a flag. -/
def signed (p : Parsed) (name : String) (fallback : Int) : Int :=
  match p.value? name with
  | some (.signed n) => n
  | some (.duration n) => n
  | _ => fallback

/-- The natural number given to a flag. -/
def unsigned (p : Parsed) (name : String) (fallback : Nat) : Nat :=
  match p.value? name with
  | some (.unsigned n) => n
  | _ => fallback

/-- The text given to a flag. -/
def text (p : Parsed) (name fallback : String) : String :=
  match p.value? name with
  | some (.text s) => s
  | _ => fallback

/-- Whether a yes-no flag is on. -/
def isOn (p : Parsed) (name : String) : Bool := p.value? name = some (.switch true)

end Parsed

end Ricochet.Command
