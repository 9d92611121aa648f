import FlowScript.Programs.Shell.Options

/-!
# Directories

A shell is in a directory and remembers the path it was entered by, which may lead through others
and back.
-/

namespace FlowScript.Programs.Shell

/-- The parts of a path with those left out that lead nowhere. -/
def normalParts (parts : List String) : List String :=
  parts.foldl (fun done part =>
    if part = ".." then done.dropLast else if part = "." || part.isEmpty then done
    else done ++ [part]) []

/-- The path of a directory as it is entered from another one. -/
def enteredPath (here dir : String) : String :=
  let isAbsolute := dir.toList.head? = some '/'
  -- two slashes at the beginning are kept
  let double : Bool := match (if isAbsolute then dir else here).toList with
    | '/' :: '/' :: c :: _ => c ≠ '/'
    | ['/', '/'] => true
    | _ => false
  let parts := Text.splitAt '/' (if isAbsolute then dir else here ++ "/" ++ dir)
  (if double then "//" else "/") ++ Text.join "/" (normalParts parts)

/-- Enters a directory. Whether there is one. -/
def enter (physical : Bool) (dir : String) : Act Bool := do
  let s ← get
  let path := if physical then dir else enteredPath s.directory dir
  let files := s.streams.files
  match files.place (Text.ofRaw path) with
  | .error _ => return false
  | .ok place =>
    if files.entryAt? place ≠ some .directory then return false
    else
      let path := if physical then Text.toRaw (Files.key place) else path
      changeStreams fun st => { st with files := { files with here := place } }
      modify fun s => { s with directory := path }
      for (name, value) in [("OLDPWD", s.directory), ("PWD", path)] do
        assign name value
        modify fun s => s.put name { ((s.vars.get? name).getD ⟨none, false, false⟩) with
          exported := true }
      return true

/-- Enters a directory, which is looked for in the directories that a variable lists. -/
def cdCommand (args : List String) : Act Nat := do
  let (options, operands) ← optionsOf ['L', 'P'] args
  let physical := options.getLast? = some 'P'
  let s ← get
  let back := operands.head? = some "-"
  let dest := match operands with
    | [] => (s.value? "HOME").getD ""
    | "-" :: _ => (s.value? "OLDPWD").getD ""
    | dir :: _ => dir
  let direct := match Text.splitAt '/' dest with
    | first :: _ => (first.isEmpty && !dest.isEmpty) || first = "." || first = ".."
    | [] => false
  let name := if dest.isEmpty then "." else dest
  let dirs := if direct then [] else Text.splitAt ':' ((s.value? "CDPATH").getD "")
  let found := dirs.find? fun dir =>
    s.streams.files.isDirectory (Text.ofRaw (Path.join dir name))
  let (target, shows) := match found with
    | some dir => (Path.join dir name, back || !dir.isEmpty)
    | none => (dest, back)
  if ← enter physical target then
    if shows then put ((← get).directory ++ "\n")
    return 0
  else fail ("can't cd to " ++ dest)

/-- Shows the directory. -/
def pwdCommand (args : List String) : Act Nat := do
  let (options, _) ← optionsOf ['L', 'P'] args
  let s ← get
  put ((if options.getLast? = some 'P' then Text.toRaw (Files.key s.streams.files.here)
    else s.directory) ++ "\n")
  return 0

end FlowScript.Programs.Shell
