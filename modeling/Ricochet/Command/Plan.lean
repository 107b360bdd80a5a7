import Ricochet.Command.Help
import Ricochet.Log
import Ricochet.Settings.Preset

set_option autoImplicit false

/-! # From arguments to a plan

The first argument that is no flag names the command. What follows is read with the flags of that
command, the number of arguments is checked, and then the values of the shared flags. The result is
a plan of what to do, or the first error.
-/

namespace Ricochet.Command

/-- The values of the shared flags. -/
structure Shared where
  /-- Frames per second; zero leaves the pace to the demo. -/
  fps : Nat
  /-- The seed; zero asks for one made from the time. -/
  seed : Int
  configPath : String
  /-- The name of the speed preset as it was written. -/
  speed : String
  /-- The preset of that name, which demos are told of. -/
  preset : Preset
  logLevel : String
  /-- Where log lines go; the empty text if no file was chosen. -/
  logFile : String
  deriving DecidableEq, Repr

/-- The values of the flags of a headless run. -/
structure TraceOptions where
  /-- How many frames; zero sets no limit. -/
  steps : UInt64
  table : Bool
  /-- Nanoseconds between frames. -/
  interval : Int
  deriving DecidableEq, Repr

/-- What to do. -/
inductive Plan where
  | list
  | play (shared : Shared) (id : String)
  | menu (shared : Shared)
  | trace (shared : Shared) (options : TraceOptions) (id : String)
  /-- Help about a command, or about the program. -/
  | help (verb : Option Verb)
  /-- Help about words that name no command. -/
  | unknownTopic (topics : List String)
  deriving DecidableEq, Repr

/-- Why there is no plan. -/
inductive PlanError where
  | unknownCommand (name : String)
  | flag (error : FlagError)
  | argumentCount (received : Nat)
  | negativeRate (fps : Int)
  | preset (error : PresetError)
  deriving DecidableEq, Repr

/-- The message of a command line without a plan. -/
def PlanError.message : PlanError → String
  | .unknownCommand name =>
      "unknown command " ++ Text.quote name ++ " for \"bounce\"" ++ suggestionText name
  | .flag e => e.message
  | .argumentCount n => "accepts 1 arg(s), received " ++ Decimal.intText n
  | .negativeRate n => "--fps must not be negative, got " ++ Decimal.intText n
  | .preset e => e.message

/-! ## Finding the command -/

/-- Whether an argument is a flag whose value is the next argument: a long flag, or a single letter,
without an equals sign, unless it is known to stand alone. -/
def takesNext (known : List Flag) (argument : String) : Bool :=
  let cs := argument.toList
  let alone (f : Flag) : Bool := f.kind = .switch
  match cs with
  | '-' :: '-' :: name =>
      !cs.contains '=' && !known.any fun f => alone f && f.name = String.ofList name
  | '-' :: c :: [] =>
      c ≠ '=' && c.toNat < 0x80 && !known.any fun f => alone f && f.letter = some c
  | _ => false

/-- The arguments that are neither flags nor values of flags. A flag whose value would be the last
argument ends the search, and so does `--`. The fuel is the number of arguments. -/
def wordsWithin (known : List Flag) : Nat → List String → List String
  | 0, _ => []
  | _, [] => []
  | fuel + 1, argument :: rest =>
      if argument = "--" then []
      else if takesNext known argument then
        match rest with
        | _ :: next :: more => wordsWithin known fuel (next :: more)
        | _ => []
      else if argument = "" ∨ argument.toList.head? = some '-' then wordsWithin known fuel rest
      else argument :: wordsWithin known fuel rest

/-- The arguments that are neither flags nor values of flags. -/
def words (known : List Flag) (arguments : List String) : List String :=
  wordsWithin known arguments.length arguments

/-- The arguments without the first occurrence of a word that is not the value of a flag. The fuel
is the number of arguments. -/
def withoutWithin (known : List Flag) (word : String) : Nat → List String → List String
  | 0, rest => rest
  | _, [] => []
  | fuel + 1, argument :: rest =>
      if argument = "--" then argument :: rest
      else if takesNext known argument then
        match rest with
        | value :: more => argument :: value :: withoutWithin known word fuel more
        | [] => [argument]
      else if argument = word then rest
      else argument :: withoutWithin known word fuel rest

/-- The command, and the arguments without its name. -/
def findVerb (arguments : List String) : Except PlanError (Option Verb × List String) :=
  match words sharedFlags arguments with
  | [] => .ok (none, arguments)
  | word :: _ =>
      match Verb.ofName? word with
      | some verb => .ok (some verb, withoutWithin sharedFlags word arguments.length arguments)
      | none => .error (.unknownCommand word)

/-! ## The plan -/

/-- Checks the shared flags. -/
def shared (p : Parsed) : Except PlanError Shared :=
  let fps := p.signed "fps" 0
  let speed := p.text "speed" "normal"
  if fps < 0 then .error (.negativeRate fps)
  else
    match Preset.parse (Utf8.bytes speed) with
    | .error e => .error (.preset e)
    | .ok preset =>
        .ok {
          fps := fps.toNat
          seed := p.signed "seed" 0
          configPath := p.text "config" ""
          speed := speed
          preset := preset
          logLevel := p.text "log-level" "info"
          logFile := p.text "log-file" "" }

/-- Flags pass the check if their rate is not negative and their preset is known. -/
theorem shared_eq_ok_iff {p : Parsed} {s : Shared} :
    shared p = .ok s ↔ 0 ≤ p.signed "fps" 0 ∧ ∃ preset,
      Preset.parse (Utf8.bytes (p.text "speed" "normal")) = .ok preset
      ∧ s = {
        fps := (p.signed "fps" 0).toNat
        seed := p.signed "seed" 0
        configPath := p.text "config" ""
        speed := p.text "speed" "normal"
        preset := preset
        logLevel := p.text "log-level" "info"
        logFile := p.text "log-file" "" } := by
  unfold shared
  by_cases hfps : p.signed "fps" 0 < 0
  · simp [hfps, Int.not_le.mpr hfps]
  · have hnonneg : 0 ≤ p.signed "fps" 0 := Int.not_lt.mp hfps
    simp only [hfps, hnonneg, if_false, true_and]
    cases Preset.parse (Utf8.bytes (p.text "speed" "normal")) with
    | error e => simp
    | ok preset => simp [eq_comm]

/-- The only argument. -/
def onlyArgument : List String → Except PlanError String
  | [argument] => .ok argument
  | arguments => .error (.argumentCount arguments.length)

/-- What help is about, given the arguments after its name. -/
def helpPlan (arguments : List String) : Plan :=
  match findVerb arguments with
  | .ok (verb, _) => .help verb
  | .error _ => .unknownTopic arguments

/-- The command of a command line, if it names one. -/
def verbOf (arguments : List String) : Option Verb := (findVerb arguments).toOption.bind Prod.fst

/-- The plan of a command line. -/
def plan (arguments : List String) : Except PlanError Plan := do
  let (verb, arguments) ← findVerb arguments
  let parsed ← (parse (helpFlag "" :: Verb.flags verb) arguments).mapError .flag
  if parsed.isOn "help" then return .help verb
  match verb with
  | some .list =>
      let _ ← shared parsed
      return .list
  | some .menu => return .menu (← shared parsed)
  | some .play =>
      let id ← onlyArgument parsed.arguments
      return .play (← shared parsed) id
  | some .trace =>
      let id ← onlyArgument parsed.arguments
      let options : TraceOptions := {
        steps := .ofNat (parsed.unsigned "steps" 100)
        table := parsed.isOn "table"
        interval := parsed.signed "interval" 0 }
      return .trace (← shared parsed) options id
  | some .help =>
      let _ ← shared parsed
      return helpPlan parsed.arguments
  | some .completion | none => return .help verb

end Ricochet.Command
