import FlowScript.Programs.Locate
import FlowScript.Programs.Shell.Syntax
import FlowScript.Programs.Streams
import FlowScript.Text.Integer

/-!
# The state of a shell

A running script has parameters, variables, functions, options and streams. An action changes them
and yields a value, unless it stops the script.
-/

namespace FlowScript.Programs.Shell

/-- A variable, which may be known without having a value. -/
structure Variable where
  value : Option String
  exported : Bool := false
  fixed : Bool := false

/-- What is passed over until a loop or a function ends. -/
inductive Skip where
  | nothing
  | leaveLoops (n : Nat)
  | nextRound (n : Nat)
  /-- `given` says that the function is told its status. -/
  | leaveFunction (given : Bool)
deriving DecidableEq

/-- Whether a function is left. -/
def Skip.isReturn : Skip → Bool
  | leaveFunction _ => true
  | _ => false

/-- What a function puts back when it ends. -/
inductive Saved where
  | variable (name : String) (old : Option Variable)
  | options (old : List Char)

/-- Why a script stops. -/
inductive Stop where
  /-- It leaves with a status. -/
  | exit (status : Nat)
  /-- Something went wrong that a command may survive. -/
  | error (status : Nat)
  /-- It is gone, and nothing of it runs any more. -/
  | gone (status : Nat)
  /-- A signal has ended it. -/
  | killed (signal : Nat)
  /-- It waits until somebody reads from a stream. -/
  | waiting (stream : Nat)
  /-- It waits until somebody writes to a stream. -/
  | starved (stream : Nat)
  /-- It has been run as far as it may. -/
  | endless

/-- The status that a stop leaves. -/
def Stop.status : Stop → Nat
  | exit status | error status | gone status => status
  | killed signal => 128 + signal
  | waiting _ | starved _ => 0
  | endless => 139

/-- Whether the script would go on if something else did first. -/
def Stop.isPending : Stop → Bool
  | waiting _ | starved _ | endless => true
  | _ => false

/-- How a process ends. -/
inductive Ending where
  | exited (status : Nat)
  | killed (signal : Nat)

/-- The status that an ending shows. -/
def Ending.status : Ending → Nat
  | exited status => status
  | killed signal => 128 + signal

/-- The stop of a script whose place something has taken that ended. -/
def Ending.stop : Ending → Stop
  | exited status => .gone status
  | killed signal => .killed signal

/-- How a process ends that stops. -/
def Stop.ending : Stop → Ending
  | killed signal => .killed signal
  | s => .exited (s.status % 256)

/-- A script in the background. -/
structure Job where
  /-- Its number among the jobs. -/
  number : Nat
  /-- The number of its process. -/
  pid : Nat
  /-- How many commands its output goes through. -/
  size : Nat
  ending : Option Ending := none
  /-- Whether it has been waited for. -/
  waited : Bool := false
  /-- Whether its ending has been noticed. -/
  noticed : Bool := false

/-- How far arguments have been taken apart into options. -/
structure OptionPlace where
  /-- The number of the next argument. -/
  index : Nat := 1
  /-- How much has been taken of the argument before it, if anything of it is left. -/
  offset : Option Nat := none

/-- How much of something a process may use; none is as much as there is. -/
structure Limit where
  soft : Option Nat
  /-- The highest value that may be set. -/
  hard : Option Nat

/-- The state of a running script. All text is raw. -/
structure State where
  streams : Streams
  /-- The name that complaints begin with. -/
  name : String
  params : List String := []
  vars : Dict Variable := ∅
  functions : Dict Command := ∅
  aliases : Dict String := ∅
  /-- The letters of the options that are on. -/
  options : List Char := []
  /-- The status of the last command. -/
  status : Nat := 0
  /-- The status of the last script whose output was taken. -/
  outputStatus : Nat := 0
  /-- The line of the command that is run. -/
  line : Nat := 1
  /-- The command of the shell that is run. -/
  command : Option String := none
  /-- The documents that commands read, by their numbers. -/
  documents : List (Nat × Word) := []
  nextDocument : Nat := 0
  /-- How many loops are running. -/
  loops : Nat := 0
  skip : Skip := .nothing
  /-- What the functions that are running put back. -/
  calls : List (List Saved) := []
  /-- How deep scripts are nested. -/
  depth : Nat := 0
  /-- What is run when a signal comes, by its number. -/
  traps : List (Nat × String) := []
  /-- The signals that have come. -/
  signals : List Nat := []
  /-- The signals that were ignored already when the shell was started. -/
  ignored : List Nat := []
  /-- The number of the process that the shell was started as. -/
  shell : Nat := 4242
  /-- The number of the process itself. -/
  self : Nat := 4242
  /-- The processes that wait for this one, the nearest first. -/
  parents : List Nat := []
  /-- The number of the next process. -/
  nextProcess : Nat := 4243
  /-- Signals on their way to processes that wait. -/
  posted : List (Nat × Nat) := []
  /-- How many rounds of loops the process may still run, if that is bounded. -/
  rounds : Option Nat := none
  /-- The status to leave with while the last trap runs. -/
  leaving : Option Nat := none
  /-- The directory as it was entered. -/
  directory : String
  /-- The programs that have been found. -/
  found : List String := []
  /-- Where the next option is. -/
  place : OptionPlace := {}
  /-- The last script in the background. -/
  job : Option Nat := none
  /-- The scripts in the background, the latest first. -/
  jobs : List Job := []
  /-- The scripts in the background that have not been run yet: the number of each, the command, the
  state it starts in, and whether it has been tried. -/
  later : List (Nat × Command × State × Bool) := []
  /-- How many lines of the script have been read. -/
  linesRead : Nat := 1
  /-- Whether the end of the script has been read, and is met again by whoever reads next. -/
  ended : Bool := false
  /-- Whether a command is being shown; then others are not. -/
  tracing : Bool := false
  /-- Whether something could not be written. -/
  broken : Bool := false
  mask : Nat := 18
  /-- The limits that have been changed, by their letters. -/
  limits : List (Char × Limit) := []

/-- Something that a shell does. -/
abbrev Act (β : Type) := ExceptT Stop (StateM State) β

/-! ## Streams -/

/-- Changes the streams. -/
def changeStreams (f : Streams → Streams) : Act Unit :=
  modify fun s => { s with streams := f s.streams }

/-- The signals that do no harm: of children that end, of going on, and the like. -/
def harmless : List Nat := [17, 18, 23, 28]

/-- Whether something is run when a signal comes. -/
def State.hasTraps (s : State) : Bool := s.traps.any (!·.2.isEmpty)

/-- The signals that a process ignores, and those that it starts. -/
def State.deafTo (s : State) : List Nat :=
  (s.traps.filter (·.2.isEmpty)).map (·.1) ++ s.ignored

/-- Has a signal come to this process. -/
def raise (n : Nat) : Act Unit := do
  let s ← get
  -- some signals cannot be caught
  let trap := if n = 9 || n = 19 then none else s.traps.find? (·.1 = n)
  if n = 0 || s.ignored.contains n then return ()
  else match trap with
    | some (_, action) =>
      if !action.isEmpty then
        set { s with signals := n :: s.signals.filter (· ≠ n) }
    | none => if harmless.contains n then return () else throw (.killed n)

/-- Attends to the signals that have been sent to this process. -/
def attend : Act Unit := do
  let s ← get
  set { s with posted := s.posted.filter (·.1 ≠ s.self) }
  for (pid, n) in s.posted do
    if pid = s.self then raise n

/-- Writes to a descriptor, and takes note if that cannot be done. A signal comes when nobody reads
any more. -/
def write (fd : Nat) (text : String) : Act Unit := do
  let s ← get
  let fails : Act Unit := modify fun s => { s with broken := s.broken || fd = 1 }
  if !text.isEmpty then
    match s.streams.write fd text with
    | .ok streams => set { s with streams := streams }
    | .error (.fault _) => fails
    | .error (.waiting n) => throw (.waiting n)
    | .error .unread =>
      raise 13
      fails

/-- Shows a text. -/
def put (text : String) : Act Unit := write 1 text

/-! ## Complaints -/

/-- Complains with the name of the script and the line. -/
def warn (text : String) : Act Unit := do
  let s ← get
  let command := match s.command with
    | some c => c ++ ": "
    | none => ""
  write 2 (s.name ++ ": " ++ toString s.line ++ ": " ++ command ++ text ++ "\n")

/-- Complains and stops. -/
def failWith {β : Type} (status : Nat) (text : String) : Act β := do
  warn text
  modify fun s => { s with status := status }
  throw (.error status)

/-- Complains and stops with the usual status. -/
def fail {β : Type} (text : String) : Act β := failWith 2 text

/-- Does something, and something else afterwards however it ends. -/
def ensuring {β : Type} (act : Act β) (after : Act Unit) : Act β := do
  let r ← tryCatch (do return Except.ok (← act)) (fun e => return Except.error e)
  after
  match r with
  | .ok v => return v
  | .error e => throw e

/-! ## Options -/

/-- The options in the order of their list: names and letters. -/
def optionNames : List (String × Char) :=
  [("errexit", 'e'), ("noglob", 'f'), ("ignoreeof", 'I'), ("interactive", 'i'), ("monitor", 'm'),
    ("noexec", 'n'), ("stdin", 's'), ("xtrace", 'x'), ("verbose", 'v'), ("vi", 'V'), ("emacs", 'E'),
    ("noclobber", 'C'), ("allexport", 'a'), ("notify", 'b'), ("nounset", 'u'), ("privileged", 'p')]

/-- Options that have no letter to be set by. -/
def letterless : List (String × Char) := [("nolog", '\x01'), ("debug", '\x02')]

/-- The list of all options: as a table, or as commands. -/
def optionList (asCommands : Bool) (isOn : Char → Bool) : String :=
  let line (name : String) (on : Bool) : String :=
    if asCommands then "set " ++ (if on then "-" else "+") ++ "o " ++ name ++ "\n"
    else
      let fill := String.ofList (List.replicate (16 - name.length) ' ')
      name ++ fill ++ (if on then "on" else "off") ++ "\n"
  (if asCommands then "" else "Current option settings\n") ++
    String.join ((optionNames ++ letterless).map fun (name, letter) => line name (isOn letter))

/-- Whether an option is on. -/
def State.has (s : State) (letter : Char) : Bool := s.options.contains letter

/-- Whether an option is on. -/
def option (letter : Char) : Act Bool := return (← get).has letter

/-- Turns an option on or off. -/
def State.turn (s : State) (letter : Char) (on : Bool) : State :=
  { s with options := (if on then [letter] else []) ++ s.options.filter (· ≠ letter) }

/-! ## Variables -/

/-- The value of a variable. -/
def State.value? (s : State) (name : String) : Option String :=
  (s.vars.get? name).bind (·.value)

/-- The value of a variable. -/
def value? (name : String) : Act (Option String) := return (← get).value? name

/-- Has a variable known under a name. -/
def State.put (s : State) (name : String) (v : Variable) : State :=
  { s with vars := s.vars.insert name v }

/-- Whether a character may stand around a number. -/
def isBlank (c : Char) : Bool := [' ', '\t', '\n', '\x0b', '\x0c', '\r'].contains c

/-- The integer that a text writes. -/
def integer? (s : String) : Option Int :=
  let cs := (s.toList.dropWhile isBlank).reverse.dropWhile isBlank |>.reverse
  (Text.Integer.ofChars? cs).filter Text.Integer.fits

/-- What a new value of some variables brings about: other programs are found, or options are taken
from another place. -/
def State.heed (s : State) (name : String) : State :=
  if name = "PATH" then { s with found := [] }
  else if name = "OPTIND" then
    let index := (integer? ((s.value? name).getD "")).getD 1
    { s with place := { index := if index ≤ 0 then 1 else index.toNat } }
  else s

/-- Puts a variable back as it was. -/
def State.restore (s : State) (name : String) (old : Option Variable) : State :=
  match old with
  | some v => (s.put name v).heed name
  | none => { s with vars := s.vars.erase name }.heed name

/-- Gives a variable a value without asking whether it may be changed. -/
def State.set (s : State) (name value : String) : State :=
  let old := (s.vars.get? name).getD ⟨none, false, false⟩
  (s.put name { old with value := some value, exported := old.exported || s.has 'a' }).heed name

/-- The integer that a text writes. -/
def integer (s : String) : Act Int := do
  match integer? s with
  | some n => return n
  | none => fail ("Illegal number: " ++ s)

/-- The number that a text writes. -/
def number (s : String) : Act Nat := do
  let n ← integer s
  if n < 0 || n > 2147483647 then fail ("Illegal number: " ++ s) else return n.toNat

/-- Makes sure that a value can be given to a variable: the place among options is a number. -/
def checkValue (name value : String) : Act Unit := do
  if name = "OPTIND" then
    let _ ← number value

/-- Gives a variable a value. -/
def assign (name value : String) : Act Unit := do
  if !isVariableName name.toList then fail (name ++ ": bad variable name")
  else if ((← get).vars.get? name).any (·.fixed) then fail (name ++ ": is read only")
  else
    checkValue name value
    modify (·.set name value)

/-- Removes a variable. -/
def unset (name : String) : Act Unit := do
  if ((← get).vars.get? name).any (·.fixed) then fail (name ++ ": is read only")
  else
    checkValue name ""
    modify fun s => { s with vars := s.vars.erase name }.heed name

/-- The variables that programs inherit. -/
def State.exports (s : State) : Dict String :=
  Dict.ofList (s.vars.entries.filterMap fun (name, v) =>
    if v.exported then v.value.map (name, ·) else none)

/-- The characters that separate fields. -/
def State.separators (s : State) : List Char :=
  match s.vars.get? "IFS" with
  | some ⟨some value, _, _⟩ => value.toList
  | _ => [' ', '\t', '\n']

/-- Puts back what a function or an assignment before a command has changed. -/
def State.undo (s : State) : List Saved → State
  | [] => s
  | .variable name old :: rest => (s.restore name old).undo rest
  | .options old :: rest => { s with options := old }.undo rest

/-! ## Quoting -/

/-- A text in single quotes, with single quotes themselves in double ones. -/
def quoteText (s : String) : String :=
  go (s.length + 1) s.toList
where
  /-- Quotes characters. -/
  go : (fuel : Nat) → List Char → String
    | 0, _ => ""
    | fuel + 1, cs =>
      let plain := cs.takeWhile (· ≠ '\'')
      let rest := cs.drop plain.length
      let quotes := rest.takeWhile (· == '\'')
      let text := "'" ++ String.ofList plain ++ "'"
      if quotes.isEmpty then text
      else
        let rest := rest.drop quotes.length
        let text := text ++ "\"" ++ String.ofList quotes ++ "\""
        if rest.isEmpty then text else text ++ go fuel rest

/-! ## Subshells -/

/-- The state of a process that goes on after another one. -/
def State.resume (before after : State) : State :=
  { before with
    streams := { after.streams with
      descriptors := before.streams.descriptors
      files := before.streams.files.keepPlace after.streams.files }
    documents := after.documents
    nextDocument := after.nextDocument
    nextProcess := after.nextProcess
    posted := after.posted }

/-- Does something in a shell of its own: of what it changes only files and streams stay. -/
def isolated {β : Type} (act : Act β) : Act β := do
  let before ← get
  set { before with
    traps := before.traps.filter (·.2.isEmpty), signals := [], jobs := [], later := []
    self := before.nextProcess, parents := before.self :: before.parents
    nextProcess := before.nextProcess + 1 }
  ensuring act (modify before.resume)

end FlowScript.Programs.Shell
