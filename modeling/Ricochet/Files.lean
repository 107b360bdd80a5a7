set_option autoImplicit false

/-! # Files and directories

The files that a run can see are a value: a list of absolute paths, each with a text or a directory
behind it. A path is a list of names, and a written path is walked name by name from the working
directory or, if it starts with a slash, from the root. What a file holds is a parameter, and a text
unless something else is said.
-/

namespace Ricochet

/-- What is at a path. -/
inductive Entry (τ : Type := String) where
  | file (text : τ)
  | directory
  deriving DecidableEq, Repr

/-- The visible files, the working directory, and the home directory if there is one. -/
structure Files (τ : Type := String) where
  entries : List (List String × Entry τ)
  workDir : List String
  home : Option (List String)
  deriving DecidableEq, Repr

/-- Why a file cannot be opened or read. -/
inductive FileError where
  | notFound
  | notDirectory
  | isDirectory
  /-- The path holds a NUL character. -/
  | invalidPath
  | nameTooLong
  deriving DecidableEq, Repr

namespace FileError

/-- The words of an error. -/
def reason : FileError → String
  | .notFound => "no such file or directory"
  | .notDirectory => "not a directory"
  | .isDirectory => "is a directory"
  | .invalidPath => "invalid argument"
  | .nameTooLong => "file name too long"

/-- The message when a file cannot be read. A directory can be opened but not read. -/
def readMessage (e : FileError) (path : String) : String :=
  (if e = .isDirectory then "read " else "open ") ++ path ++ ": " ++ e.reason

/-- The message when a file cannot be opened for writing. -/
def writeMessage (e : FileError) (path : String) : String :=
  "open " ++ path ++ ": " ++ e.reason

end FileError

namespace Files

variable {τ : Type}

/-- What is at an absolute path. The root is always a directory. -/
def at? (fs : Files τ) (path : List String) : Option (Entry τ) :=
  if path.isEmpty then some .directory else fs.entries.lookup path

/-- The files with an entry put at an absolute path. -/
def put (fs : Files τ) (path : List String) (e : Entry τ) : Files τ :=
  { fs with entries := (path, e) :: fs.entries.filter (fun p => p.1 ≠ path) }

/-- The files without the entry at an absolute path. -/
def erase (fs : Files τ) (path : List String) : Files τ :=
  { fs with entries := fs.entries.filter (fun p => p.1 ≠ path) }

/-- The files with a directory at every path on the way to `path`. -/
def putParents (fs : Files τ) (path : List String) : Files τ :=
  (List.range path.length).foldl (fun fs n =>
    let parent := path.take n
    if (fs.at? parent).isSome then fs else fs.put parent .directory) fs

/-- The files with an entry and the directories on the way to it. -/
def insert (fs : Files τ) (path : List String) (e : Entry τ) : Files τ :=
  (fs.putParents path).put path e

/-- The characters between slashes. -/
def betweenSlashes : List Char → List (List Char)
  | [] => [[]]
  | '/' :: cs => [] :: betweenSlashes cs
  | c :: cs =>
      match betweenSlashes cs with
      | [] => [[c]]
      | first :: rest => (c :: first) :: rest

/-- The names of a written path. -/
def names (path : String) : List String := (betweenSlashes path.toList).map String.ofList

/-- The greatest number of bytes in a name. -/
def longestName : Nat := 255

/-- The greatest number of bytes in a written path. -/
def longestPath : Nat := 4095

/-- Walks names from a path. Every name but the last must lead to a directory; a dot stays, two
dots go up. A name is looked at only where it is reached. -/
def walk (fs : Files τ) : List String → List String → Except FileError (List String)
  | here, [] => .ok here
  | here, name :: rest =>
      match fs.at? here with
      | none => .error .notFound
      | some (.file _) => .error .notDirectory
      | some .directory =>
          if name = "" ∨ name = "." then walk fs here rest
          else if name = ".." then walk fs here.dropLast rest
          else if longestName < name.utf8ByteSize then .error .nameTooLong
          else walk fs (here ++ [name]) rest

/-- Refuses a written path that names nothing whatever the files are. -/
def checkPath (path : String) : Except FileError Unit :=
  if path.toList.contains '\x00' then .error .invalidPath
  else if longestPath < path.utf8ByteSize then .error .nameTooLong
  else .ok ()

/-- Where the walk along a written path starts. -/
def startOf (fs : Files τ) (path : String) : List String :=
  if path.startsWith "/" then [] else fs.workDir

/-- The absolute path and the entry of a written path. -/
def find (fs : Files τ) (path : String) :
    Except FileError (List String × Option (Entry τ)) := do
  checkPath path
  let here ← fs.walk (fs.startOf path) (names path)
  return (here, fs.at? here)

/-- Reads a file. -/
def read (fs : Files τ) (path : String) : Except FileError τ := do
  match ← fs.find path with
  | (_, none) => .error .notFound
  | (_, some .directory) => .error .isDirectory
  | (_, some (.file text)) => .ok text

/-- A written path without the slashes at its end. -/
def withoutLastSlashes (path : String) : String :=
  String.ofList (path.toList.reverse.dropWhile (· = '/')).reverse

/-- The names of a written path up to the last, which stands before slashes, and a dot that asks
for a directory. -/
def namesBeforeLast (path : String) : List String :=
  let before := names (withoutLastSlashes path)
  if before.getLast? = some "." ∨ before.getLast? = some ".." then before
  else before.dropLast ++ ["."]

/-- Opens a file for writing at its end, creating it if it does not exist. A path that ends in a
slash asks for a directory, whatever is there. -/
def openForAppend (fs : Files) (path : String) : Except FileError Files := do
  checkPath path
  if path.endsWith "/" then
    let _ ← fs.walk (fs.startOf path) (namesBeforeLast path)
    .error .isDirectory
  else
    match ← fs.find path with
    | (here, none) => .ok (fs.put here (.file ""))
    | (_, some .directory) => .error .isDirectory
    | (_, some (.file _)) => .ok fs

/-- Adds text at the end of an open file. -/
def append (fs : Files) (path text : String) : Files :=
  match fs.find path with
  | .ok (here, some (.file old)) => fs.put here (.file (old ++ text))
  | _ => fs

/-- Joins names and tidies the result: empty names and dots go, and two dots take away the name
before them. Two dots with nothing before them stay. -/
def tidy (parts : List String) : List String :=
  parts.foldl (fun acc name =>
    if name = "" ∨ name = "." then acc
    else if name = ".." ∧ acc ≠ [] ∧ acc.getLast? ≠ some ".." then acc.dropLast
    else acc ++ [name]) []

/-- A tidied path relative to the working directory. -/
def relativePath (parts : List String) : String :=
  match tidy parts with
  | [] => "."
  | names => "/".intercalate names

/-- A tidied absolute path. -/
def absolutePath (parts : List String) : String :=
  "/" ++ "/".intercalate ((tidy parts).dropWhile (· = ".."))

end Files

end Ricochet
