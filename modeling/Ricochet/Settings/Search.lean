import Ricochet.Files
import Ricochet.Settings.Defaults

set_option autoImplicit false

/-! # Where settings come from

A path given by the user is the only place looked at, and it must be readable. Without one, the
settings of a demo come from the first of these that can be read: the file of the demo in the user's
directory, the file of the demo in the working directory, and the built-in settings. Files that are
missing or cannot be read are passed over. How a text becomes settings is a parameter of the search.
Only a text on which the reader breaks down ends it (`load`).
-/

namespace Ricochet

/-- Why no settings were found. -/
inductive LoadError (ε : Type) where
  | unreadable (path : String) (error : FileError)
  | malformed (path : String) (error : ε)
  | unknownDemo (id : String)
  deriving DecidableEq, Repr

/-- The message of settings that were not found, as bytes. -/
def LoadError.message : LoadError Yaml.Error → List UInt8
  | .unreadable path e =>
      Utf8.bytes ("failed to read config " ++ path ++ ": " ++ e.readMessage path)
  | .malformed path e => Utf8.bytes ("failed to parse config " ++ path ++ ": ") ++ e.message
  | .unknownDemo id => Utf8.bytes ("no default config for demo " ++ Text.quote id)

namespace Settings

variable {τ ε γ : Type}

/-- The name of a demo's settings file. -/
def fileName (id : String) : String := id ++ ".yaml"

/-- The settings file of a demo in the user's directory, if the user has one. -/
def userPath? (fs : Files τ) (id : String) : Option String :=
  fs.home.map fun home =>
    Files.absolutePath (home ++ [".bounce", "configs"] ++ Files.names (fileName id))

/-- The settings file of a demo in the working directory. -/
def localPath (id : String) : String :=
  Files.relativePath ("configs" :: Files.names (fileName id))

/-- The value in a file, if the file can be read and its text means one. -/
def tryRead (parse : τ → Except ε γ) (fs : Files τ) (path : String) : Option γ :=
  match fs.read path with
  | .error _ => none
  | .ok text => (parse text).toOption

/-- The value in a file that must be usable. -/
def mustRead (parse : τ → Except ε γ) (fs : Files τ) (path : String) :
    Except (LoadError ε) γ :=
  match fs.read path with
  | .error e => .error (.unreadable path e)
  | .ok text =>
      match parse text with
      | .error e => .error (.malformed path e)
      | .ok c => .ok c

/-- The optional files of a demo, in the order in which they are tried. -/
def candidates (fs : Files τ) (id : String) : List String :=
  (userPath? fs id).toList ++ [localPath id]

/-- The search, for any reading of texts and any built-in values. -/
def search (parse : τ → Except ε γ) (builtIn : String → Option γ) (fs : Files τ)
    (id custom : String) : Except (LoadError ε) γ :=
  if custom ≠ "" then mustRead parse fs custom
  else
    match (candidates fs id).findSome? (tryRead parse fs) with
    | some c => .ok c
    | none =>
        match builtIn id with
        | some c => .ok c
        | none => .error (.unknownDemo id)

/-- The built-in value of a demo, if it has one: that of its built-in text, or the value itself
should the text not be readable. -/
def builtInBy (parse : τ → Except ε γ) (text? : String → Option τ) (value? : String → Option γ)
    (id : String) : Option γ :=
  (value? id).map fun fallback =>
    match (text? id).map parse with
    | some (.ok c) => c
    | _ => fallback

/-- The built-in settings of a demo. -/
def builtIn (id : String) : Option (Settings Float) := builtInBy parse defaultText? default? id

/-- The first of some files that breaks the reader down, if none before it has settings. -/
def breakdown? (fs : Files) : List String → Option String
  | [] => none
  | path :: rest =>
      match (fs.read path).toOption.map parse with
      | some (.ok _) => none
      | some (.error .breakdown) => some path
      | _ => breakdown? fs rest

/-- The settings of a demo. -/
def load (fs : Files) (id custom : String) : Except (LoadError Yaml.Error) (Settings Float) :=
  match breakdown? fs (if custom = "" then candidates fs id else []) with
  | some path => .error (.malformed path .breakdown)
  | none => search parse builtIn fs id custom

end Settings

end Ricochet
