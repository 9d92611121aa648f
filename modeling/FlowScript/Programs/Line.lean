import FlowScript.Command.ArgVals
import FlowScript.Env.Record
import FlowScript.Host.World
import FlowScript.Text.ShellWords

/-!
# Command lines

A command line runs a program. The program is started with the variables of the tool and with every
value that the env shows, and the argument values of the call follow the words of the line. Of its
output, lines that carry a record change the env; all others are shown as they are. A line that
starts with `-` succeeds whatever the status of the program is.

What a program does is not part of this: how programs are run is given by a launcher.
-/

namespace FlowScript

/-- Why a command line could not be run. -/
inductive LineError where
  | unreadable (line : String)
  | empty
  | failed (line : String) (reason : IoError)
deriving DecidableEq

/-- The text shown for an error. -/
def LineError.message : LineError → String
  | unreadable line => "Command could not be parsed: " ++ line
  | empty => "No command specified to run."
  | failed line reason => s!"Command '{line}' could not be executed: " ++ reason.message

namespace Programs

/-! ## Programs -/

/-- What a program is started with: its name, its arguments, the variables it is given, each as its
name, an equal sign and its value, and the directory it runs in, if not that of the tool. -/
structure Launch where
  program : String
  args : List String
  vars : Dict String
  dir : Option String

/-- What a program that was run leaves behind: its status, what it wrote, and the files. -/
structure Outcome where
  status : Nat
  out : Text.Bytes
  err : Text.Bytes
  files : Files

/-- How programs are run on files. -/
abbrev Launcher := Launch → Files → Except IoError Outcome

/-! ## Output -/

/-- Takes one line of output: a record changes the env, any other line is shown. Only text can carry
a record. -/
def forwardLine (line : Text.Bytes) (s : Env × World) : Env × World :=
  match (Text.ofBytes? line).bind EnvRecord.parse? with
  | some r => (r.apply s.1, s.2)
  | none => (s.1, s.2.putBytes line)

/-- Takes lines of output in order. -/
def forward (lines : List Text.Bytes) (s : Env × World) : Env × World :=
  lines.foldl (fun s line => forwardLine line s) s

/-! ## Lines -/

/-- The command of a line, and whether its status counts. -/
def splitMark (line : String) : String × Bool :=
  let trimmed := Text.trim line
  match trimmed.toList with
  | '-' :: rest => (Text.trim (String.ofList rest), false)
  | _ => (trimmed, true)

/-- The name and the arguments in a command. -/
def wordsOf (command : String) : Except LineError (String × List String) :=
  if command.isEmpty then .error .empty
  else match Text.ShellWords.split? command with
    | none => .error (.unreadable command)
    | some [] => .error .empty
    | some (name :: args) => .ok (name, args)

/-- What is started for a command: the argument values follow its words, and a value that the env
shows takes the place of a variable with the same name. -/
def launchOf (dir : Option String) (name : String) (words : List String) (args : ArgVals)
    (s : Env × World) : Launch :=
  ⟨name, words ++ args.pairs.map (·.2), s.2.vars.merge s.1.flatten, dir⟩

/-- Takes what a program left behind. Complaints are not looked at for records. -/
def settle (o : Outcome) (s : Env × World) : Env × World :=
  let w := { s.2 with files := o.files }
  let w := if o.err.isEmpty then w else w.emit (.err o.err)
  forward (Text.byteLines o.out) (s.1, w)

/-- What a command comes to, by what became of its program. -/
def conclude (command : String) (counts : Bool) (ran : Except IoError Outcome) (s : Env × World) :
    Except LineError Bool × Env × World :=
  match ran with
  | .error reason => (.error (.failed command reason), s)
  | .ok o => (.ok (o.status = 0 || !counts), settle o s)

/-- Runs a command line in a directory. -/
def runLine (launch : Launcher) (dir : Option String) (line : String) (args : ArgVals)
    (s : Env × World) : Except LineError Bool × Env × World :=
  let (command, counts) := splitMark line
  match wordsOf command with
  | .error e => (.error e, s)
  | .ok (name, words) =>
    conclude command counts (launch (launchOf dir name words args s) s.2.files) s

end Programs

end FlowScript
