import Ricochet.Command.Flags
import Ricochet.Text.LowerCase
import Ricochet.Text.Distance
import Ricochet.Text.Padding

set_option autoImplicit false

/-! # The commands and their help

The commands of the program, what help says about each of them, and which commands are suggested for
a word that is none.
-/

namespace Ricochet.Command

/-- The commands. -/
inductive Verb where
  | list
  | play
  | menu
  | trace
  | help
  | completion
  deriving DecidableEq, Repr

namespace Verb

/-- All commands. -/
def all : List Verb := [.list, .play, .menu, .trace, .help, .completion]

/-- The name of a command. -/
def name : Verb → String
  | .list => "list"
  | .play => "play"
  | .menu => "menu"
  | .trace => "trace"
  | .help => "help"
  | .completion => "completion"

/-- The command of a name. -/
def ofName? (name : String) : Option Verb := all.find? (·.name = name)

/-- What a command does, in a few words. -/
def brief : Verb → String
  | .list => "List all available demos"
  | .play => "Animate a demo"
  | .menu => "Pick a demo interactively"
  | .trace => "Print ball states without a UI"
  | .help => "Help about any command"
  | .completion => "Generate the autocompletion script for the specified shell"

/-- The flags of a command besides the shared ones. -/
def ownFlags : Option Verb → List Flag
  | some .trace => traceFlags
  | _ => []

/-- The flags of a command; without a command only the shared ones are known. -/
def flags (v : Option Verb) : List Flag := sharedFlags ++ ownFlags v

end Verb

/-! ## Suggestions -/

/-- How far a word may be from a command that is suggested for it. -/
def suggestionReach : Nat := 2

/-- Whether a command is suggested for a word: it is near the word or begins with it. -/
def Verb.isSuggestedFor (word : String) (v : Verb) : Bool :=
  let word := (Text.lowered word).toUTF8.toList
  let name := v.name.toUTF8.toList
  Text.distance word name ≤ suggestionReach || word.isPrefixOf name

/-- The commands that are suggested for a word. Help is never suggested. -/
def suggestions (word : String) : List Verb :=
  Verb.all.filter fun v => v ≠ .help && v.isSuggestedFor word

/-- The suggestions as a message ends with them. -/
def suggestionText (word : String) : String :=
  match suggestions word with
  | [] => ""
  | vs => "\n\nDid you mean this?\n" ++ String.join (vs.map fun v => "\t" ++ v.name ++ "\n")

/-! ## Help -/

/-- What help says about a command. -/
structure Topic where
  /-- The name of the command, with the names of the commands it belongs to. -/
  path : String
  about : String
  /-- How the command is written, if it does something by itself. -/
  useLine : Option String
  /-- The commands that belong to it, each with what it does. -/
  commands : List (String × String)
  flags : List Flag
  /-- The flags it shares with other commands. -/
  sharedFlags : List Flag

/-- What help says about the whole program. -/
def programAbout : String :=
  "Bounce animates balls moving inside a box and bouncing off its walls.\n" ++
  "\n" ++
  "Available commands:\n" ++
  "  list     - Show all available demos\n" ++
  "  play     - Animate a specific demo\n" ++
  "  menu     - Interactive demo picker\n" ++
  "  trace    - Print ball states without a UI\n" ++
  "\n" ++
  "Examples:\n" ++
  "  bounce list\n" ++
  "  bounce play balls\n" ++
  "  bounce play ball --speed fast\n" ++
  "  bounce trace balls --steps 10 --seed 42"

namespace Verb

/-- What help says about a command. -/
def about : Verb → String
  | .list => "Shows a list of all demos registered in bounce."
  | .play =>
      "Animate the specified demo full screen.\n" ++
      "\n" ++
      "Controls:\n" ++
      "  P/Space    - Pause / resume\n" ++
      "  N          - Advance one step while paused\n" ++
      "  R          - Restart with a new random field\n" ++
      "  Esc        - Back (ends the demo)\n" ++
      "  Q/Ctrl+C   - Quit\n" ++
      "\n" ++
      "Examples:\n" ++
      "  bounce play balls\n" ++
      "  bounce play ball --speed slow\n" ++
      "  bounce play balls --seed 42 --fps 30\n" ++
      "  bounce play balls --config ./my-balls.yaml"
  | .menu =>
      "Show a menu of all demos. Esc inside a demo returns to the menu,\n" ++
      "Q quits."
  | .trace =>
      "Run a demo's simulation headlessly and print every ball after each step.\n" ++
      "\n" ++
      "Line format (default):\n" ++
      "  <step> <ball> <x> <y> <vx> <vy> <radius> <color>\n" ++
      "\n" ++
      "Examples:\n" ++
      "  bounce trace balls --steps 5 --seed 42\n" ++
      "  bounce trace ball --steps 3 --table\n" ++
      "  bounce trace balls --steps 0 --interval 15ms   # until Ctrl+C"
  | .help =>
      "Help provides help for any command in the application.\n" ++
      "Simply type bounce help [path to command] for full details."
  | .completion =>
      "Generate the autocompletion script for bounce for the specified shell.\n" ++
      "See each sub-command's help for details on how to use the generated script."

/-- How a command is written, if it does something by itself. -/
def useLine : Verb → Option String
  | .list => some "bounce list [flags]"
  | .play => some "bounce play <demo> [flags]"
  | .menu => some "bounce menu [flags]"
  | .trace => some "bounce trace <demo> [flags]"
  | .help => some "bounce help [command] [flags]"
  | .completion => none

/-- The shells that completion knows. -/
def shells : List String := ["bash", "fish", "powershell", "zsh"]

/-- The commands that belong to a command. -/
def subcommands : Verb → List (String × String)
  | .completion =>
      shells.map fun shell => (shell, "Generate the autocompletion script for " ++ shell)
  | _ => []

end Verb

/-- Flags in the order of their names. -/
def inOrder (flags : List Flag) : List Flag :=
  flags.mergeSort fun f g => decide (f.name ≤ g.name)

/-- What help says about a command, or about the program. -/
def topicOf : Option Verb → Topic
  | none => {
      path := "bounce"
      about := programAbout
      useLine := none
      commands := ([.completion, .help, .list, .menu, .play, .trace] : List Verb).map fun v =>
        (v.name, v.brief)
      flags := inOrder (helpFlag "bounce" :: sharedFlags)
      sharedFlags := [] }
  | some v => {
      path := "bounce " ++ v.name
      about := v.about
      useLine := v.useLine
      commands := v.subcommands
      flags := inOrder (helpFlag v.name :: Verb.ownFlags (some v))
      sharedFlags := inOrder sharedFlags }

namespace Topic

/-- A flag as help shows it, without what it is for. -/
def flagHead (f : Flag) : String :=
  let letter := match f.letter with
    | some c => "  -" ++ String.singleton c ++ ", --"
    | none => "      --"
  letter ++ f.name ++ match f.kind.word with
    | "" => ""
    | word => " " ++ word

/-- What a flag is for, with its value when it is not given. -/
def flagTail (f : Flag) : String :=
  f.about ++ match f.fallback with
    | some value => " (default " ++ value ++ ")"
    | none => ""

/-- A list of flags, what they are for in one column. -/
def flagLines (flags : List Flag) : String :=
  let widest := (flags.map fun f => (flagHead f).length).foldl max 0
  String.join (flags.map fun f => "\n" ++ Text.padRight widest (flagHead f) ++ "   " ++ flagTail f)

/-- A list of commands, what they do in one column. -/
def commandLines (commands : List (String × String)) : String :=
  String.join (commands.map fun c => "\n  " ++ Text.padRight 11 c.1 ++ " " ++ c.2)

/-- How a command is used. -/
def usage (t : Topic) : String :=
  let whenCommands (text : String) : String := if t.commands.isEmpty then "" else text
  "Usage:"
    ++ (match t.useLine with
      | some line => "\n  " ++ line
      | none => "")
    ++ whenCommands ("\n  " ++ t.path ++ " [command]\n\nAvailable Commands:"
      ++ commandLines t.commands)
    ++ "\n\nFlags:" ++ flagLines t.flags
    ++ (if t.sharedFlags.isEmpty then "" else "\n\nGlobal Flags:" ++ flagLines t.sharedFlags)
    ++ whenCommands ("\n\nUse \"" ++ t.path
      ++ " [command] --help\" for more information about a command.")
    ++ "\n"

/-- What help prints. -/
def text (t : Topic) : String := t.about ++ "\n\n" ++ t.usage

end Topic

/-- Whether a word can stand between back quotes: it has none, and no control character but tabs. -/
def isQuotable (word : String) : Bool :=
  word.toList.all fun c =>
    c ≠ '`' && c.toNat ≠ 0x7F && c.toNat ≠ 0xFEFF && (0x20 ≤ c.toNat || c = '\t')

/-- What is said of words that name no command. -/
def unknownTopicText (topics : List String) : String :=
  let quoted (word : String) : String :=
    if isQuotable word then "`" ++ word ++ "`" else Text.quote word
  "Unknown help topic [" ++ " ".intercalate (topics.map quoted) ++ "]\n"

end Ricochet.Command
