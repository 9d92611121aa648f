import FlowScript.Programs.Basic

/-!
# Where programs are

A command that holds a slash is a path. Any other is looked for in the directories that the variable
`PATH` lists, in their order.
-/

namespace FlowScript.Programs

/-- The directories that hold the programs. -/
def programDirs : List String := ["/bin", "/usr/bin"]

/-- The names of the programs. -/
def programNames : List String := ["cat", "echo", "false", "printf", "pwd", "sh", "true"]

/-- The directories that are searched when no variable says otherwise. -/
def usualPath : String := "/usr/local/bin:/usr/bin:/bin"

/-- The directories that a shell searches that inherits no variable for them. -/
def fallbackPath : String := "/usr/local/sbin:/usr/local/bin:/usr/sbin:/usr/bin:/sbin:/bin"

/-- Files with the programs, devices and directories that are always there. -/
def installed (files : Files) : Files :=
  let dirs := ["/bin", "/dev", "/dev/fd", "/etc", "/home", "/root", "/tmp", "/usr", "/usr/bin",
    "/usr/local", "/usr/local/bin", "/var", "/var/tmp"]
  let programs := programDirs.flatMap fun dir =>
    programNames.map fun name => (dir ++ "/" ++ name, Entry.program name)
  let numbered := (List.range 10).map fun n => ("/dev/fd/" ++ toString n, Entry.stream n)
  let devices := [("/dev/full", Entry.full), ("/dev/null", .void), ("/dev/tty", .absent),
    ("/dev/stdin", .stream 0), ("/dev/stdout", .stream 1), ("/dev/stderr", .stream 2)] ++ numbered
  let entries := dirs.map (·, Entry.directory) ++ programs ++ devices
  { files with entries := (Dict.ofList entries).merge files.entries }

/-- The program that an entry is. -/
def programOf? : Entry → Option String
  | .program name => some name
  | _ => none

/-- The paths that a command may mean. -/
def candidates (path command : String) : List String :=
  (Text.splitAt ':' path).map fun dir =>
    if dir.isEmpty then "./" ++ command else dir ++ "/" ++ command

/-- The name of the program that a command means. What is there but no program is a refusal, but
only if no later directory has a program. -/
def locate (path : String) (files : Files) (command : String) : Except IoError String :=
  let ask (p : String) : Except IoError String := do
    match programOf? (← files.entry p) with
    | some name => .ok name
    | none => .error .permissionDenied
  if command.isEmpty then .error .notFound
  else if command.toList.contains '/' then ask command
  else if command.utf8ByteSize > Files.partLimit then .error .nameTooLong
  else
    let tries := (candidates path command).map ask
    match tries.findSome? Except.toOption with
    | some name => .ok name
    | none =>
      let refused := tries.any fun
        | .error .permissionDenied => true
        | _ => false
      .error (if refused then .permissionDenied else .notFound)

end FlowScript.Programs
