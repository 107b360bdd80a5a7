import Ricochet.Command.Plan
import Ricochet.Demo.Balls
import Ricochet.Registry
import Ricochet.Run.Trace
import Ricochet.Text.Padding

set_option autoImplicit false

/-! # Carrying out a plan

A plan is carried out in an environment that says what cannot be computed: the files, the time, the
name of the run and when it is interrupted. The outcome is what is printed, the exit code and the
files afterwards. Nothing here opens a terminal; showing a demo or the menu ends where one would be
needed.
-/

namespace Ricochet.Command

/-- What the outside world contributes. -/
structure Environment where
  files : Files
  /-- The time in nanoseconds, from which a seed is made if none is chosen. -/
  now : Int
  /-- The time as log lines show it. -/
  clock : String
  /-- The name of a headless run in the log. -/
  runId : String
  /-- How long a headless run took, as the log shows it. -/
  elapsed : String
  /-- After how many frames a headless run is interrupted. -/
  patience : Nat
  /-- The text that explains the use of a command, or of the program. -/
  usage : Option Verb → String

/-- What a command leaves behind. -/
structure Outcome where
  code : Nat
  output : String
  errors : String
  files : Files

/-- A command that succeeded. -/
def Outcome.done (files : Files) (output : String) : Outcome :=
  { code := 0, output := output, errors := "", files := files }

/-- A command that failed before it printed anything. -/
def Outcome.failed (files : Files) (errors : String) : Outcome :=
  { code := 1, output := "", errors := errors, files := files }

/-! ## The demos -/

/-- The demos that come with the program. -/
def demos : Registry BallKind :=
  [BallKind.many, BallKind.single].foldl
    (fun r kind => (r.register BallKind.title (Utf8.bytes kind.id) kind).2) Registry.empty

/-- The listing of demos as printed. -/
def listingText (items : List Listing) : String :=
  if items.isEmpty then "No demos available.\n"
  else
    let widest := (items.map fun item => item.id.length).foldl max 2
    let line (left : List UInt8) (right : String) : String :=
      "  " ++ Utf8.toString (Text.padBytes widest left) ++ "  " ++ right ++ "\n"
    "Available demos:\n\n" ++ line (Utf8.bytes "ID") "Title" ++ line (Utf8.bytes "--") "-----"
      ++ String.join (items.map fun item => line item.id item.title)
      ++ "\nRun 'bounce play <id>' to watch a demo.\n"

/-- What is printed for a name that no demo has. -/
def unknownDemoText (id : String) : String :=
  "Error: unknown demo " ++ Text.quote id ++ "\nRun 'bounce list' to see available demos.\n"

/-- What is printed for a command line without a plan. An unknown command is answered by a hint, any
other error by the usage of the command. -/
def planErrorText (usage : String) (e : PlanError) : String :=
  let hint := match e with
    | .unknownCommand _ => "Run 'bounce --help' for usage."
    | _ => usage
  "Error: " ++ e.message ++ "\n" ++ hint ++ "\n" ++ e.message ++ "\n"

/-! ## Logging -/

/-- Where log lines go. -/
inductive LogTarget where
  | nowhere
  | errors
  | file (path : String)
  deriving DecidableEq, Repr

/-- Why there is no log. -/
inductive LogError where
  | level (name : String)
  | file (path : String) (error : FileError)
  deriving DecidableEq, Repr

/-- The message of a log that could not be set up. -/
def LogError.message : LogError → String
  | .level name => "invalid --log-level: " ++ Log.Level.unknownMessage name
  | .file path e => "cannot open log file: " ++ e.writeMessage path

/-- A log: how its lines look, where they go, and the files after it was opened. -/
structure LogSetup where
  format : Log.Format
  target : LogTarget
  files : Files

/-- Sets up the log. While a demo owns the terminal, log lines go to a file or nowhere. -/
def openLog (env : Environment) (s : Shared) (interactive : Bool) : Except LogError LogSetup :=
  match Log.Level.parse? s.logLevel with
  | none => .error (.level s.logLevel)
  | some level =>
      let format : Log.Format := ⟨some env.clock, some "bounce", level⟩
      if s.logFile ≠ "" then
        match env.files.openForAppend s.logFile with
        | .ok files => .ok ⟨format, .file s.logFile, files⟩
        | .error e => .error (.file s.logFile e)
      else .ok ⟨format, if interactive then .nowhere else .errors, env.files⟩

/-- The files after records were logged. -/
def LogSetup.filesWith (l : LogSetup) (records : List Log.Record) : Files :=
  match l.target with
  | .file path => l.files.append path (l.format.lines records)
  | _ => l.files

/-- What logging prints beside the output. -/
def LogSetup.errorsWith (l : LogSetup) (records : List Log.Record) : String :=
  match l.target with
  | .errors => l.format.lines records
  | _ => ""

/-! ## The commands -/

/-- The chosen seed, or the time if none was chosen. -/
def Shared.seedOr (s : Shared) (now : Int) : Int := if s.seed = 0 then now else s.seed

/-- What a demo is started with: the size of the terminal, or the usual one if it does not tell, and
the chosen rate and seed. -/
def Shared.runOptions (s : Shared) (size : Option (Int × Int)) (now : Int) : RunOptions :=
  let (width, height) := size.getD (RunOptions.default.width, RunOptions.default.height)
  { width := width, height := height, tickRate := s.fps, seed := s.seedOr now }

/-- What a demo is prepared from. -/
def Shared.surroundings (s : Shared) (files : Files) : Surroundings :=
  { files := files, configPath := s.configPath, preset := s.preset }

/-- What every attempt to show something comes to without a terminal. -/
def noTerminal : String := "could not open a new TTY"

/-- Shows a demo: it is reset and logged, and then a terminal would be needed. -/
def showDemo (env : Environment) (s : Shared) (id : String) : Outcome :=
  match demos.find? (Utf8.bytes id) with
  | none => .failed env.files (unknownDemoText id)
  | some kind =>
      match openLog env s true with
      | .error e => .failed env.files ("Error: " ++ e.message ++ "\n")
      | .ok log =>
          let options := s.runOptions none env.now
          match kind.demo.reset (s.surroundings log.files) options kind.demo.fresh with
          | (some e, _) =>
              .failed log.files
                ("Error running demo: " ++ Utf8.toString (kind.demo.explain e) ++ "\n")
          | (none, b) =>
              let record : Log.Record := ⟨.info, "demo started", [("demo", id),
                ("seed", Decimal.intText options.seed),
                ("balls", Decimal.intText (kind.demo.state b).balls)]⟩
              .failed (log.filesWith [record]) ("Error running demo: " ++ noTerminal ++ "\n")

/-- Shows the menu: a terminal would be needed at once. -/
def showMenu (env : Environment) (s : Shared) : Outcome :=
  match openLog env s true with
  | .error e => .failed env.files ("Error: " ++ e.message ++ "\n")
  | .ok log => .failed log.files ("Error running menu: " ++ noTerminal ++ "\n")

/-- A trace written to a page without limit. -/
abbrev TraceProgress : Type := Run.Progress (Run.Scene (Run.Trace Run.Page) Float) Run.PageError

/-- The format of a headless run. -/
def TraceOptions.format (o : TraceOptions) : Run.TraceFormat := if o.table then .table else .lines

/-- The field of a headless run and the trace that it is drawn on. -/
def TraceOptions.stage (o : TraceOptions) :
    Run.Stage (Run.Scene (Run.Trace Run.Page) Float) Run.PageError Float :=
  .live (Run.Trace.draw Run.Page.write o.format)

/-- A headless run, to its budget or to the interruption. -/
def traceRun (env : Environment) (o : TraceOptions) (f : Field Float) : TraceProgress :=
  let scene : Run.Scene (Run.Trace Run.Page) Float := ⟨f, ⟨.empty none, 0⟩⟩
  let signals (n : Nat) : Run.Signal := if n < env.patience then .proceed else .cancelled
  (o.stage.run o.steps signals env.patience scene).getD (.start scene)

/-- The record of a field that was built. -/
def builtRecord (id : String) (seed : Int) (f : Field Float) : Log.Record :=
  ⟨.debug, "field built", [("demo", id), ("seed", Decimal.intText seed),
    ("balls", Decimal.intText f.balls.length)]⟩

/-- What is printed when a demo could not be prepared for a headless run. -/
def prepareErrorText : PrepareError → String
  | .load e => "Error loading config: " ++ Utf8.toString e.message ++ "\n"
  | .build e => "Error: " ++ e.message ++ "\n"

/-- The preset of a headless run, read from its name once more. A name that does not read, which the
check of the flags rules out, leaves velocities as they are. -/
def Shared.tracePreset (s : Shared) : Preset :=
  match Preset.parse (Utf8.bytes s.speed) with
  | .ok preset => preset
  | .error _ => .normal

/-- The field of a headless run. No demo is involved: the settings are loaded, the preset is applied
to them and the field is built right here. -/
def traceField (s : Shared) (files : Files) (id : String) (seed : Int) :
    Except PrepareError (Field Float) :=
  match Settings.load files id s.configPath with
  | .error e => .error (.load e)
  | .ok loaded =>
      match (s.tracePreset.apply loaded).buildSeeded seed with
      | .error e => .error (.build e)
      | .ok f => .ok f

/-- A headless run that is about to start. -/
structure TraceStart where
  log : LogSetup
  /-- What is logged before the first frame. -/
  records : List Log.Record
  field : Field Float

/-- Prepares a headless run, or gives the outcome of the failure. -/
def readyTrace (env : Environment) (s : Shared) (o : TraceOptions) (id : String) :
    Except Outcome TraceStart :=
  if !demos.contains (Utf8.bytes id) then .error (.failed env.files (unknownDemoText id))
  else
    match openLog env s false with
    | .error e => .error (.failed env.files ("Error: " ++ e.message ++ "\n"))
    | .ok log =>
        let seed := s.seedOr env.now
        match traceField s log.files id seed with
        | .error e => .error (.failed log.files (prepareErrorText e))
        | .ok f =>
            .ok {
              log := log
              records := [builtRecord id seed f, Run.started env.runId f o.interval o.steps]
              field := f }

/-- Runs a demo without a terminal and prints every frame. -/
def traceDemo (env : Environment) (s : Shared) (o : TraceOptions) (id : String) : Outcome :=
  match readyTrace env s o id with
  | .error outcome => outcome
  | .ok start =>
      let p := traceRun env o start.field
      let records := start.records ++ [Run.ended env.runId env.elapsed Run.PageError.message p]
      { code := 0
        output := p.world.renderer.out.text
        errors := start.log.errorsWith records
        files := start.log.filesWith records }

/-- Carries out a plan. -/
def Plan.carryOut (env : Environment) : Plan → Outcome
  | .list => .done env.files (listingText (demos.list))
  | .play s id => showDemo env s id
  | .menu s => showMenu env s
  | .trace s o id => traceDemo env s o id
  | .help verb => .done env.files (topicOf verb).text
  | .unknownTopic topics =>
      { code := 0
        output := ""
        errors := unknownTopicText topics ++ env.usage none
        files := env.files }

/-- Runs a command line. -/
def run (env : Environment) (arguments : List String) : Outcome :=
  match plan arguments with
  | .error e => .failed env.files (planErrorText (env.usage (verbOf arguments)) e)
  | .ok p => p.carryOut env

end Ricochet.Command
