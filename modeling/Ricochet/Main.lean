import Std.Time
import Ricochet.Command.Outcome

set_option autoImplicit false

/-! # The program

The outer layer: it looks at the files that a plan needs, carries the plan out and prints what comes
of it. Headless runs are printed frame by frame as they happen.
-/

namespace Ricochet.Program

open Command

/-- What reading a path gives. -/
def readPath (path : String) : IO (Except FileError String) := do
  try
    return .ok (← IO.FS.readFile path)
  catch
    | .inappropriateType _ code _ =>
        return .error (if code = 21 then .isDirectory else .notDirectory)
    | _ => return .error .notFound

/-- The files with what is found at a path. -/
def look (fs : Files) (path : String) : IO Files := do
  let start := if path.startsWith "/" then [] else fs.workDir
  let names := Files.tidy (start ++ Files.names path)
  match ← readPath path with
  | .ok text => return fs.insert names (.file text)
  | .error .isDirectory => return fs.insert names .directory
  | .error .notDirectory => return fs.insert names.dropLast (.file "")
  | .error _ => return fs

/-- The directory part of a written path. -/
def parentOf (path : String) : String :=
  "/".intercalate (Files.names path).dropLast ++ "/."

/-- The shared flags of a plan, if it has any. -/
def sharedOf : Plan → Option Shared
  | .play s _ => some s
  | .menu s => some s
  | .trace s _ _ => some s
  | _ => none

/-- The demo of a plan, if it has one. -/
def demoOf : Plan → Option String
  | .play _ id => some id
  | .trace _ _ id => some id
  | _ => none

/-- The files that a plan can look at. -/
def gather (p : Plan) : IO Files := do
  let home ← IO.getEnv "HOME"
  let workDir := (Files.names (← IO.currentDir).toString).filter (· ≠ "")
  let mut fs : Files := {
    entries := []
    workDir := workDir
    home := (home.filter (· ≠ "")).map fun path =>
      (if path.startsWith "/" then [] else workDir) ++ Files.names path }
  fs := fs.insert workDir .directory
  if let some id := demoOf p then
    for path in Settings.candidates fs id do
      fs ← look fs path
  if let some s := sharedOf p then
    if s.configPath ≠ "" then
      fs ← look fs s.configPath
    if s.logFile ≠ "" then
      if s.logFile.toList.contains '/' then
        fs ← look fs (parentOf s.logFile)
      fs ← look fs s.logFile
  return fs

/-- Adds to a file on disk what was appended to it in the files of an outcome. -/
def store (before after : Files) (path : String) : IO Unit := do
  match after.read path with
  | .ok text =>
      let old := (before.read path).toOption.getD ""
      let added := String.ofList (text.toList.drop old.length)
      let handle ← IO.FS.Handle.mk path .append
      handle.putStr added
  | .error _ => return

/-- A name for a run: thirty-two random hexadecimal digits in five groups. -/
def freshRunId : IO String := do
  let digits := (← IO.getRandomBytes 16).toList.flatMap fun b => Decimal.hexChars 2 b.toNat
  let group (start size : Nat) : String := String.ofList ((digits.drop start).take size)
  return "-".intercalate [group 0 8, group 8 4, group 12 4, group 16 4, group 20 12]

/-- Prints the frames of a headless run until it ends. -/
partial def frames (o : TraceOptions) (p : TraceProgress) : IO TraceProgress := do
  if p.ended o.steps .proceed then return p
  if 0 < o.interval then IO.sleep (o.interval / 1000000).toNat.toUInt32
  let next := o.stage.frame p
  let trace := next.world.renderer
  (← IO.getStdout).putStr trace.out.text
  frames o { next with world := { next.world with renderer := { trace with out := .empty none } } }

/-- Prints an outcome and stores its log. -/
def finish (s : Option Shared) (before : Files) (o : Outcome) : IO UInt32 := do
  (← IO.getStdout).putStr o.output
  (← IO.getStderr).putStr o.errors
  if let some s := s then
    if s.logFile ≠ "" then store before o.files s.logFile
  return o.code.toUInt32

/-- The environment of a run that starts now. -/
def environment (files : Files) : IO Environment := do
  let now ← Std.Time.Timestamp.now
  let clock ← Std.Time.PlainDateTime.now
  return {
    files := files
    now := now.toNanosecondsSinceUnixEpoch.val
    clock := clock.format "uuuu/MM/dd HH:mm:ss"
    runId := ← freshRunId
    elapsed := "0s"
    patience := 0
    usage := fun verb => (topicOf verb).usage }

/-- Runs a headless run frame by frame. -/
def runTrace (env : Environment) (s : Shared) (o : TraceOptions) (id : String) : IO UInt32 := do
  match readyTrace env s o id with
  | .error outcome => finish (some s) env.files outcome
  | .ok start =>
      (← IO.getStderr).putStr (start.log.errorsWith start.records)
      let began ← IO.monoNanosNow
      let p ← frames o (.start ⟨start.field, ⟨.empty none, 0⟩⟩)
      let elapsed := Duration.text ((← IO.monoNanosNow) - began)
      let last := [Run.ended env.runId elapsed Run.PageError.message p]
      finish (some s) env.files {
        code := 0
        output := ""
        errors := start.log.errorsWith last
        files := start.log.filesWith (start.records ++ last) }

/-- Runs a command line. -/
def run (arguments : List String) : IO UInt32 := do
  match plan arguments with
  | .error e =>
      (← IO.getStderr).putStr (planErrorText (topicOf (verbOf arguments)).usage e)
      return 1
  | .ok p =>
      let env ← environment (← gather p)
      match p with
      | .trace s o id => runTrace env s o id
      | p => finish (sharedOf p) env.files (p.carryOut env)

end Ricochet.Program

/-- The program. -/
def main (arguments : List String) : IO UInt32 := Ricochet.Program.run arguments
