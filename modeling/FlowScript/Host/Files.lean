import FlowScript.Dict
import FlowScript.Text.Bytes
import FlowScript.Text.Cut

/-!
# Files

Files and directories by their place, and the few operations that scripts need: reading a file,
replacing one, and making the directories on the way to it. Each operation names the reason when it
fails.
-/

namespace FlowScript

/-- Why an operation on files or programs failed. -/
inductive IoError where
  | notFound
  | permissionDenied
  | fileExists
  | notADirectory
  | isADirectory
  | nameTooLong
  | tooMuch
  | badDescriptor
  | noSpace
  /-- There is no device behind it. -/
  | noDevice
  | notText
  | nulInPath
  | nulInArguments
  | noWholeTree
deriving DecidableEq, Repr

/-- The text shown for a reason. -/
def IoError.message : IoError → String
  | notFound => "No such file or directory (os error 2)"
  | permissionDenied => "Permission denied (os error 13)"
  | fileExists => "File exists (os error 17)"
  | notADirectory => "Not a directory (os error 20)"
  | isADirectory => "Is a directory (os error 21)"
  | nameTooLong => "File name too long (os error 36)"
  | tooMuch => "Argument list too long (os error 7)"
  | badDescriptor => "Bad file descriptor (os error 9)"
  | noSpace => "No space left on device (os error 28)"
  | noDevice => "No such device or address (os error 6)"
  | notText => "stream did not contain valid UTF-8"
  | nulInPath => "file name contained an unexpected NUL byte"
  | nulInArguments => "nul byte found in provided data"
  | noWholeTree => "failed to create whole tree"

/-! ## Paths -/

namespace Path

/-- The parts of a path that lead somewhere: neither empty nor a single dot. -/
def parts (path : String) : List String :=
  (Text.splitAt '/' path).filter fun p => !p.isEmpty && p ≠ "."

/-- Whether a path starts at the root. -/
def isAbsolute (path : String) : Bool :=
  path.toList.head? = some '/'

/-- Whether a path can only mean a directory. -/
def isDirectoryPath (path : String) : Bool :=
  match (Text.splitAt '/' path).getLast? with
  | some last => (last.isEmpty || last = ".") && path ≠ "."
  | none => false

/-- The last part of a path as it is written, slashes after it aside. -/
def lastPart (path : String) : String :=
  ((Text.splitAt '/' path).filter fun p => !p.isEmpty).getLast?.getD ""

/-- Whether the last part of a path is a single dot. -/
def endsInDot (path : String) : Bool :=
  lastPart path = "."

/-- Whether a path ends in a name with a slash after it. -/
def endsInSlash (path : String) : Bool :=
  path.toList.getLast? = some '/' && !(["", ".", ".."].contains (lastPart path))

/-- A path read backwards without the separators and single dots at its end. -/
def dropSeps : List Char → List Char
  | [] => []
  | ['/'] => ['/']
  | '/' :: rest => dropSeps rest
  | ['.', '/'] => ['/']
  | '.' :: '/' :: rest => dropSeps rest
  | cs => cs

/-- The path of the directory that a path lies in, as it is written. The root and the empty path lie
in none. -/
def parent? (path : String) : Option String :=
  match dropSeps path.toList.reverse with
  | [] => none
  | ['/'] => none
  | cs => some (String.ofList (dropSeps (cs.dropWhile (· ≠ '/'))).reverse)

/-- A path below a directory. -/
def join (dir name : String) : String :=
  if isAbsolute name then name
  else if dir.isEmpty || dir.toList.getLast? = some '/' then dir ++ name
  else dir ++ "/" ++ name

end Path

/-! ## The store -/

/-- What is stored at a place. -/
inductive Entry where
  | file (contents : Text.Bytes)
  | directory
  /-- A program that can be run by this name. -/
  | program (name : String)
  /-- A file that is always empty. -/
  | void
  /-- A file that has no room for anything. -/
  | full
  /-- The file of a device that is not there. -/
  | absent
  /-- A stream of whoever opens it. -/
  | stream (number : Nat)
deriving DecidableEq

/-- Files and directories by place, and the directory that relative paths start from. The root is
always there. -/
structure Files where
  entries : Dict Entry
  here : List String

namespace Files

/-- No files. -/
def empty : Files := ⟨∅, []⟩

/-- The key of a place. -/
def key (place : List String) : String :=
  "/" ++ Text.join "/" place

/-- Other files, with relative paths starting where they did. -/
def keepPlace (fs other : Files) : Files :=
  { other with here := fs.here }

/-- What is stored at a place. -/
def entryAt? (fs : Files) (place : List String) : Option Entry :=
  if place.isEmpty then some .directory else fs.entries.get? (key place)

/-- Stores an entry at a place. -/
def store (fs : Files) (place : List String) (e : Entry) : Files :=
  { fs with entries := fs.entries.insert (key place) e }

/-- The greatest number of bytes in one part of a path. -/
def partLimit : Nat := 255

/-- The greatest number of bytes in a path. -/
def pathLimit : Nat := 4095

/-- Goes from a place along some parts. Each part but the last has to lead to a directory. -/
def follow (fs : Files) : List String → List String → Except IoError (List String)
  | place, [] => .ok place
  | place, part :: rest =>
    match fs.entryAt? place with
    | none => .error .notFound
    | some .directory =>
      if part = ".." then fs.follow place.dropLast rest
      else if part.utf8ByteSize > partLimit then .error .nameTooLong
      else fs.follow (place ++ [part]) rest
    | some _ => .error .notADirectory

/-- The place that a path leads to by way of some parts. -/
def placeVia (fs : Files) (path : String) (parts : List String) : Except IoError (List String) :=
  if path.toList.contains '\x00' then .error .nulInPath
  else if path.isEmpty then .error .notFound
  else if path.utf8ByteSize > pathLimit then .error .nameTooLong
  else fs.follow (if Path.isAbsolute path then [] else fs.here) parts

/-- The place that a path means. -/
def place (fs : Files) (path : String) : Except IoError (List String) :=
  fs.placeVia path (Path.parts path)

/-- What a path leads to. -/
def entry (fs : Files) (path : String) : Except IoError Entry := do
  match fs.entryAt? (← fs.place path) with
  | none => .error .notFound
  | some .directory => .ok .directory
  | some e => if Path.isDirectoryPath path then .error .notADirectory else .ok e

/-- Whether a path leads to anything. -/
def contains (fs : Files) (path : String) : Bool :=
  match fs.entry path with
  | .ok _ => true
  | .error _ => false

/-- Whether a path leads to a directory. -/
def isDirectory (fs : Files) (path : String) : Bool :=
  match fs.entry path with
  | .ok .directory => true
  | _ => false

/-- The names in the directory at a place, in order. -/
def names (fs : Files) (place : List String) : List String :=
  let front := if place.isEmpty then "/" else key place ++ "/"
  fs.entries.entries.filterMap fun (path, _) =>
    let name := path.toList.drop front.length
    if front.toList.isPrefixOf path.toList && !name.isEmpty && !name.contains '/' then
      some (String.ofList name)
    else none

/-- The contents of a file. -/
def readBytes (fs : Files) (path : String) : Except IoError Text.Bytes := do
  match ← fs.entry path with
  | .directory => .error .isADirectory
  | .file contents => .ok contents
  | .program _ => .ok programBytes
  | .absent => .error .noDevice
  | .void | .full | .stream _ => .ok []
where
  /-- What programs begin with; it is no text. -/
  programBytes : Text.Bytes := [127, 69, 76, 70, 2, 1, 1, 0, 128]

/-- The contents of a file as text. -/
def readText (fs : Files) (path : String) : Except IoError String := do
  match Text.ofBytes? (← fs.readBytes path) with
  | some s => .ok s
  | none => .error .notText

/-- The place of the file that a path names, whether it is there or not. -/
def filePlace (fs : Files) (path : String) : Except IoError (List String) := do
  if Path.endsInSlash path then
    match fs.entryAt? (← fs.placeVia path (Path.parts path).dropLast) with
    | none => .error .notFound
    | some .directory => .error .isADirectory
    | some _ => .error .notADirectory
  else
    let place ← fs.place path
    match fs.entryAt? place with
    | some .directory => .error .isADirectory
    | some _ => if Path.isDirectoryPath path then .error .notADirectory else .ok place
    | none => if Path.endsInDot path then .error .notFound else .ok place

/-- Puts contents into the file at a place, which is made if it is not there. Streams and
the files of devices keep nothing. -/
def fill (fs : Files) (place : List String) (contents : Text.Bytes) : Files :=
  match fs.entryAt? place with
  | some .void | some .full | some .absent | some (.stream _) => fs
  | _ => fs.store place (.file contents)

/-- Puts contents into a file, which is made if it is not there. -/
def writeBytes (fs : Files) (path : String) (contents : Text.Bytes) : Except IoError Files := do
  let place ← fs.filePlace path
  match fs.entryAt? place with
  | some .full => if contents.isEmpty then .ok fs else .error .noSpace
  | some .absent => .error .noDevice
  | _ => .ok (fs.fill place contents)

/-- Makes a directory inside one that is there. -/
def makeDirectory (fs : Files) (path : String) : Except IoError Files := do
  let place ← fs.place path
  match fs.entryAt? place with
  | some _ => .error .fileExists
  | none =>
    -- a dot at the end means a directory that is there
    if Path.endsInDot path then .error .notFound else .ok (fs.store place .directory)

/-- Makes a directory unless it is there. -/
def ensureDirectory (fs : Files) (path : String) : Except IoError Files :=
  match fs.makeDirectory path with
  | .ok fs => .ok fs
  | .error e => if fs.isDirectory path then .ok fs else .error e

/-- Makes a directory and those around it, and gives the files as they are afterwards even if it
fails. A path is longer than that of the directory around it, so its length bounds the depth. -/
def makeDirectories (fs : Files) : (depth : Nat) → String → Except IoError Unit × Files
  | 0, _ => (.error .noWholeTree, fs)
  | depth + 1, path =>
    if path.isEmpty then (.ok (), fs)
    else match fs.ensureDirectory path with
      | .ok fs => (.ok (), fs)
      | .error .notFound =>
        match Path.parent? path with
        | none => (.error .noWholeTree, fs)
        | some parent =>
          match fs.makeDirectories depth parent with
          | (.error e, fs) => (.error e, fs)
          | (.ok (), fs) =>
            match fs.ensureDirectory path with
            | .ok fs => (.ok (), fs)
            | .error e => (.error e, fs)
      | .error e => (.error e, fs)

/-- Makes a directory and those around it. -/
def createAll (fs : Files) (path : String) : Except IoError Unit × Files :=
  fs.makeDirectories (path.length + 1) path

end Files

end FlowScript
