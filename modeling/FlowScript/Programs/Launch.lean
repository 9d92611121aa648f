import FlowScript.Programs.Line
import FlowScript.Programs.Shell.Run

/-!
# Starting programs

A launcher for the few programs that stand in for those of a host.
-/

namespace FlowScript.Programs

/-- The files as they are seen from a directory. -/
def enter (files : Files) : Option String → Except IoError Files
  | none => .ok files
  | some dir => do
    let place ← files.place dir
    match files.entryAt? place with
    | some .directory => .ok { files with here := place }
    | some _ => .error .notADirectory
    | none => .error .notFound

/-- Whether a text holds the character that no argument may hold. -/
def hasNul (s : String) : Bool := s.toList.contains '\x00'

/-- The number of bytes that one argument or variable may not reach. -/
def wordLimit : Nat := 131072

/-- The variables as a program finds them: names and values are told apart at the first equal sign,
and there is always one for the directories to be searched. -/
def inherited (vars : Dict String) : Dict String :=
  let given := vars.entries.map fun (key, value) =>
    match Text.cut '=' (key ++ "=" ++ value) with
    | some (name, value) => (Text.toRaw name, Text.toRaw value)
    | none => (Text.toRaw key, Text.toRaw value)
  Dict.ofList (("PATH", usualPath) :: given)

/-- The bytes shown on a channel. -/
def shownOn (c : Channel) (shown : Shown) : Text.Bytes :=
  (shown.filter (·.1 = c)).flatMap fun (_, text) => Text.gather text

/-- Runs one of the programs that are modelled. -/
def launch (l : Launch) (files : Files) : Except IoError Outcome :=
  let ⟨name, args, vars, dir⟩ := l
  if (name :: dir.toList ++ args).any hasNul ||
      vars.entries.any (fun (key, value) => hasNul key || hasNul value) then
    .error .nulInArguments
  else do
    let inside ← enter files dir
    let found ← locate ((vars.get? "PATH").getD usualPath) inside name
    let tooLong := (name :: args).any (·.utf8ByteSize ≥ wordLimit) ||
      vars.entries.any fun (key, value) => key.utf8ByteSize + value.utf8ByteSize + 1 ≥ wordLimit
    if tooLong then .error .tooMuch
    else
      let start : Start :=
        ⟨Text.toRaw name, args.map Text.toRaw, inherited vars, inside, .text "" none, none⟩
      match Shell.utility? found with
      | some p =>
        let f := p start
        .ok ⟨f.status, shownOn .out f.shown, shownOn .err f.shown, files⟩
      | none =>
        let (status, streams) := Shell.shell start
        let shown := streams.shown.reverse
        .ok ⟨status, shownOn .out shown, shownOn .err shown, files.keepPlace streams.files⟩

end FlowScript.Programs
