import HtmlTemplate.CommandLine.Command

/-!
# A model of files

A `FileSystem` holds the files, directories and devices of a system, and the directory that the
command works in. `FileSystem.read` and `FileSystem.write` answer as a system does, with the same
errors in the same order. `FileSystem.hostWith` lets the command run on the model, with `Streams`
for standard input and output, which may fail.
-/

namespace HtmlTemplate.CommandLine

/-- A place: the names from the root of the system on. -/
abbrev Location := List String

/-- What stands at a location. -/
inductive Entry where
  | file (content : List UInt8) (readable writable : Bool)
  | directory
  /-- Reads as empty, and swallows what is written unless it has no space. -/
  | device (hasSpace : Bool)
  deriving DecidableEq

/-- What stands where, and where paths start that do not start at the root. The latest entry of a
location counts. -/
structure FileSystem where
  entries : List (Location × Entry) := []
  workingDirectory : Location := []

/-- The standard streams of a run. -/
structure Streams where
  /-- What standard input holds, or why it cannot be read to its end. -/
  input : Except FileError (List UInt8)
  /-- Why standard output fails at a text, if it does. -/
  accept : String → Except FileError Unit

/-- Standard input holds the bytes, and standard output takes every text. -/
def Streams.working (stdin : List UInt8) : Streams where
  input := .ok stdin
  accept _ := .ok ()

namespace FileSystem

/-- What stands at a location. The working directory and what it stands in are directories. -/
def entry? (fs : FileSystem) (location : Location) : Option Entry :=
  if location.isPrefixOf fs.workingDirectory then some .directory else fs.entries.lookup location

/-- Puts an entry at a location. -/
def put (fs : FileSystem) (location : Location) (entry : Entry) : FileSystem :=
  { fs with entries := (location, entry) :: fs.entries }

/-- Puts an entry at a location in the working directory. -/
def putHere (fs : FileSystem) (names : List String) (entry : Entry) : FileSystem :=
  fs.put (fs.workingDirectory ++ names) entry

/-- The length in bytes from which on a name is too long. -/
def nameLimit : Nat := 256

/-- The length in bytes from which on a path is too long. -/
def pathLimit : Nat := 4096

/-- The parts of a path between its slashes, the last first. -/
def splitPath (parts : List String) (part : List Char) : List Char → List String
  | [] => String.ofList part.reverse :: parts
  | '/' :: rest => splitPath (String.ofList part.reverse :: parts) [] rest
  | c :: rest => splitPath parts (c :: part) rest

/-- The location that is reached from another by the parts of a path. Each part is looked up in a
directory, and the root stands in itself. -/
def follow (fs : FileSystem) (location : Location) : List String → Except FileError Location
  | [] => .ok location
  | part :: parts =>
    match fs.entry? location with
    | none => .error .notFound
    | some (.file ..) | some (.device _) => .error .notDirectory
    | some .directory =>
      if part = "" ∨ part = "." then follow fs location parts
      else if part = ".." then follow fs location.dropLast parts
      else if nameLimit ≤ part.utf8ByteSize then .error .nameTooLong
      else follow fs (location ++ [part]) parts

/-- The location that the parts of a path name. The empty path names nothing. -/
def locateParts (fs : FileSystem) (path : String) (parts : List String) :
    Except FileError Location :=
  if path = "" then .error .notFound
  else if pathLimit ≤ path.utf8ByteSize then .error .nameTooLong
  else fs.follow (if path.toList.head? = some '/' then [] else fs.workingDirectory) parts

/-- The parts of a path in order. -/
def partsOf (path : String) : List String :=
  (splitPath [] [] path.toList).reverse

/-- The location that a path names. -/
def locate (fs : FileSystem) (path : String) : Except FileError Location :=
  fs.locateParts path (partsOf path)

/-- The location that a path names for a file that is written. With a slash at its end a path names
a directory, whatever stands there, in a directory that has to exist. -/
def locateTarget (fs : FileSystem) (path : String) : Except FileError Location :=
  if path.toList.getLast? = some '/' then do
    let _ ← fs.locateParts path (((partsOf path).filter (· ≠ "")).dropLast ++ ["."])
    .error .isDirectory
  else fs.locate path

/-- The content of a file. -/
def read (fs : FileSystem) (path : String) : Except FileError (List UInt8) := do
  let location ← fs.locate path
  match fs.entry? location with
  | none => .error .notFound
  | some .directory => .error .isDirectory
  | some (.device _) => .ok []
  | some (.file content readable _) =>
    if readable then .ok content else .error .permissionDenied

/-- Replaces the content of a file, or makes a file. -/
def write (fs : FileSystem) (path : String) (content : List UInt8) :
    Except FileError FileSystem := do
  let location ← fs.locateTarget path
  match fs.entry? location with
  | none => .ok (fs.put location (.file content true true))
  | some .directory => .error .isDirectory
  | some (.device hasSpace) => if hasSpace then .ok fs else .error .noSpace
  | some (.file _ readable writable) =>
    if writable then .ok (fs.put location (.file content readable writable))
    else .error .permissionDenied

/-- Runs the command on the model, with the given streams. -/
def hostWith (streams : Streams) : Host (StateM FileSystem) where
  readInput := return streams.input
  readFile path := return (← get).read path
  writeFile path content := do
    match (← get).write path content with
    | .ok fs =>
      set fs
      return .ok ()
    | .error error => return .error error
  print text := return streams.accept text

/-- Runs the command on the model, with streams that do not fail. -/
def host (stdin : List UInt8) : Host (StateM FileSystem) :=
  hostWith (.working stdin)

end FileSystem

end HtmlTemplate.CommandLine
