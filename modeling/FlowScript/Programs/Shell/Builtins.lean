import FlowScript.Programs.Shell.Directory
import FlowScript.Programs.Shell.Expand
import FlowScript.Programs.Shell.Limits
import FlowScript.Programs.Shell.Permissions
import FlowScript.Programs.Shell.Reader
import FlowScript.Programs.Shell.Signals
import FlowScript.Programs.Shell.Test

/-!
# Commands of the shell

The commands that a shell carries out itself, apart from those that run scripts. Each takes its
arguments and yields a status. A complaint inside one stops it; whether it also stops the script
depends on the command.
-/

namespace FlowScript.Programs.Shell

/-! ## Output -/

/-- Shows its arguments as a format asks. -/
def printfCommand (args : List String) : Act Nat := do
  let (_, operands) ← optionsOf [] args
  match operands with
  | [] => fail "usage: printf format [arg ...]"
  | format :: args =>
    let (status, shown) := Print.run .shell format args
    for (c, text) in shown do
      if c = .err then warn text
    put (String.join (shown.filterMap fun (c, text) => if c = .out then some text else none))
    if status > 1 then throw (.error status) else return status

/-! ## Variables -/

/-- The name and the value in an argument, if it has a value. -/
def nameAndValue (arg : String) : String × Option String :=
  match Text.cut '=' arg with
  | some (name, value) => (name, some value)
  | none => (arg, none)

/-- Gives variables a mark, and values where arguments have them; or shows those with the mark. -/
def markCommand (command : String) (mark : Variable → Variable) (marked : Variable → Bool)
    (args : List String) : Act Nat := do
  let (options, operands) ← optionsOf ['p'] args
  if !options.isEmpty || operands.isEmpty then
    for (name, v) in (← get).vars.entries do
      if marked v then
        put (command ++ " " ++ name ++ (match v.value with
          | some value => "=" ++ quoteText value
          | none => "") ++ "\n")
  else
    for arg in operands do
      let (name, value) := nameAndValue arg
      if !isVariableName name.toList then fail (name ++ ": bad variable name")
      if let some value := value then assign name value
      modify fun s => s.put name (mark ((s.vars.get? name).getD ⟨none, false, false⟩))
  return 0

/-- Has programs inherit variables. -/
def exportCommand : List String → Act Nat :=
  markCommand "export" (fun v => { v with exported := true }) (·.exported)

/-- Has variables keep their values. -/
def readonlyCommand : List String → Act Nat :=
  markCommand "readonly" (fun v => { v with fixed := true }) (·.fixed)

/-- Has the function that is running put something back when it ends. -/
def saveFor (saved : Saved) : Act Unit :=
  modify fun s => { s with
    calls := match s.calls with
      | [] => []
      | call :: rest => (saved :: call) :: rest }

/-- Has variables of a function forgotten when it ends. -/
def localCommand (args : List String) : Act Nat := do
  if (← get).calls.isEmpty then fail "not in a function"
  for arg in args do
    if arg = "-" then saveFor (.options (← get).options)
    else
      let (name, value) := nameAndValue arg
      if !isVariableName name.toList then fail (name ++ ": bad variable name")
      saveFor (.variable name ((← get).vars.get? name))
      match value with
      | some value => assign name value
      | none => modify fun s => s.put name ((s.vars.get? name).getD ⟨none, false, false⟩)
  return 0

/-- Removes variables or functions. -/
def unsetCommand (args : List String) : Act Nat := do
  let (options, operands) ← optionsOf ['v', 'f'] args
  for name in operands do
    if options.getLast? = some 'f' then
      modify fun s => { s with functions := s.functions.erase name }
    else if !isVariableName name.toList then fail (name ++ ": bad variable name")
    else unset name
  return 0

/-- Moves the parameters down. -/
def shiftCommand (args : List String) : Act Nat := do
  let n ← match args with
    | [] => pure 1
    | arg :: _ => number arg
  let s ← get
  if n > s.params.length then fail "can't shift that many"
  else
    set { s with params := s.params.drop n, place := {} }
    return 0

/-- Sets options and parameters, or shows the variables. -/
def setCommand (args : List String) : Act Nat := do
  if args.isEmpty then
    for (name, v) in (← get).vars.entries do
      if let some value := v.value then put (name ++ "=" ++ quoteText value ++ "\n")
  else
    let (params, always) ← setOptions args.length args
    controlJobs
    if always || !params.isEmpty then
      modify fun s => { s with params := params, place := {} }
  return 0

/-! ## Input -/

/-- A line of input: its runs, in which escaped characters are fixed, whether it is ended, and how
much of the input it takes. -/
def takeLine (raw : Bool) : Text.Bytes → List Run × Bool × Nat
  | [] => ([], false, 0)
  | b :: rest =>
    let more (run : Run) (count : Nat) : List Run × Bool × Nat :=
      let (runs, ended, taken) := takeLine raw (rest.drop (count - 1))
      (run :: runs, ended, count + taken)
    if b = 10 then ([], true, 1)
    else if b = 0 then more ⟨.separated, []⟩ 1
    else if b = 92 && !raw then
      match rest with
      | [] => ([], false, 1)
      | d :: _ => more (if d = 10 then ⟨.separated, []⟩
        else ⟨.fixed, [.char (Char.ofNat d.toNat) true]⟩) 2
    else
      let isPlain (b : UInt8) : Bool := b ≠ 10 && b ≠ 0 && (raw || b ≠ 92)
      let text := (b :: rest).takeWhile isPlain
      more ⟨.separated, text.map fun b => .char (Char.ofNat b.toNat) false⟩ text.length
termination_by bs => bs.length
decreasing_by simp only [List.length_drop, List.length_cons]; omega

/-- Reads a line into variables. -/
def readInput (args : List String) : Act Nat := do
  let (options, names) ← takeOptions ['r'] ['p'] (args.length + (String.join args).length) args
  if names.isEmpty then fail "arg count"
  else
    let s ← get
    match s.streams.left 0 with
    | none =>
      for name in names do assign name ""
      return 1
    | some left =>
      let (runs, ended, taken) := takeLine (options.any (·.1 = 'r')) left
      if let (false, some n) := (ended, s.streams.writer? 0) then throw (.starved n)
      changeStreams (·.advance 0 taken)
      let fields := lineFields s.separators names.length runs
      for (name, i) in names.zipIdx do
        assign name (fields[i]?.getD "")
      return if ended then 0 else 1

/-! ## Options of scripts -/

/-- Letters of options from a letter on. Colons after the letters before it are passed over. -/
def findLetter (c : Char) : List Char → List Char
  | [] => []
  | d :: rest =>
    if d = c then d :: rest
    else match rest with
      | ':' :: rest => findLetter c rest
      | rest => findLetter c rest

/-- Takes the next option from the parameters or from arguments. -/
def getoptsCommand (args : List String) : Act Nat := do
  let (_, args) ← optionsOf [] args
  match args with
  | letters :: name :: rest =>
    let s ← get
    let words := if rest.isEmpty then s.params else rest
    let place := if s.place.index > words.length + 1 then {} else s.place
    let index := place.index
    let silent := letters.toList.head? = some ':'
    -- the rest of the argument that is being taken apart
    let current := match place.offset with
      | some n => if index ≤ 1 then [] else (words[index - 2]?.getD "").toList.drop n
      | none => []
    let finish (next : Nat) (offset : Option Nat) (c : String) (status : Nat) : Act Nat := do
      assign "OPTIND" (toString next)
      assign name c
      modify fun s => { s with place := ⟨next, offset⟩ }
      return status
    let start : Option (List Char × Nat) :=
      if !current.isEmpty then some (current, index)
      else match words[index - 1]?.map String.toList with
        | some ('-' :: c :: cs) => if c = '-' && cs.isEmpty then none else some (c :: cs, index + 1)
        | _ => none
    match start with
    | none =>
      let skip := words[index - 1]? = some "--" && current.isEmpty
      finish (if skip then index + 1 else index) none "?" 1
    | some (cs, next) =>
      let c := cs.head?.getD '?'
      let left := cs.tail
      let word := (words[next - 2]?.getD "").length
      let offset := if left.isEmpty then none else some (word - left.length)
      let known := findLetter c letters.toList
      if known.isEmpty then
        if silent then assign "OPTARG" (String.singleton c)
        else
          write 2 ("Illegal option -" ++ String.singleton c ++ "\n")
          unset "OPTARG"
        finish next offset "?" 0
      else if known.tail.head? = some ':' then
        if !left.isEmpty then
          assign "OPTARG" (String.ofList left)
          finish next none (String.singleton c) 0
        else match words[next - 1]? with
          | some value =>
            assign "OPTARG" value
            finish (next + 1) none (String.singleton c) 0
          | none =>
            if silent then
              assign "OPTARG" (String.singleton c)
              finish next none ":" 0
            else
              write 2 ("No arg for -" ++ String.singleton c ++ " option\n")
              unset "OPTARG"
              finish next none "?" 0
      else
        assign "OPTARG" ""
        finish next offset (String.singleton c) 0
  | _ => fail "Usage: getopts optstring var [arg...]"

/-! ## Leaving -/

/-- Leaves the script. -/
def exitCommand (args : List String) : Act Nat := do
  let s ← get
  let n ← match args with
    | [] => pure (s.leaving.getD s.status)
    | arg :: _ => number arg
  throw (.exit n)

/-- Leaves a function or a script that was read in. -/
def returnCommand (args : List String) : Act Nat := do
  let n ← match args with
    | [] => pure (← get).status
    | arg :: _ => number arg
  modify fun s => { s with skip := .leaveFunction (!args.isEmpty) }
  return n

/-- Leaves loops, or goes on with the next round of one. -/
def leaveLoop (skip : Nat → Skip) (args : List String) : Act Nat := do
  let n ← match args with
    | [] => pure 1
    | arg :: _ => do
      let n ← number arg
      if n = 0 then fail ("Illegal number: " ++ arg) else pure n
  let n := Nat.min n (← get).loops
  if n > 0 then modify fun s => { s with skip := skip n }
  return 0

/-! ## Other commands -/

/-- The name and the text in an argument, if it has a text. A name has at least one character. -/
def aliasAndText (arg : String) : String × Option String :=
  match Text.cut '=' (String.ofList (arg.toList.drop 1)) with
  | some (name, text) => (String.ofList (arg.toList.take 1) ++ name, some text)
  | none => (arg, none)

/-- Gives commands other names, or shows them. -/
def aliasCommand (args : List String) : Act Nat := do
  if args.isEmpty then
    for (name, value) in (← get).aliases.entries do
      put (name ++ "=" ++ quoteText value ++ "\n")
    return 0
  let mut status := 0
  for arg in args do
    match aliasAndText arg with
    | (name, some value) => modify fun s => { s with aliases := s.aliases.insert name value }
    | (name, none) =>
      match (← get).aliases.get? name with
      | some value => put (name ++ "=" ++ quoteText value ++ "\n")
      | none =>
        write 2 ("alias: " ++ name ++ " not found\n")
        status := 1
  return status

/-- Takes other names of commands back. -/
def unaliasCommand (args : List String) : Act Nat := do
  let (options, operands) ← optionsOf ['a'] args
  if !options.isEmpty then
    modify fun s => { s with aliases := ∅ }
    return 0
  let mut status := 0
  for name in operands do
    if (← get).aliases.contains name then
      modify fun s => { s with aliases := s.aliases.erase name }
    else
      write 2 ("unalias: " ++ name ++ " not found\n")
      status := 1
  return status

/-- The path of a program among the directories that a variable lists. -/
def programPath? (s : State) (path name : String) : Option String :=
  if name.toList.contains '/' then
    if s.streams.files.contains (Text.ofRaw name) then some name else none
  else (candidates path name).find? fun p =>
    match s.streams.files.entry (Text.ofRaw p) with
    | .ok e => (programOf? e).isSome
    | .error _ => false

/-- The directories that are searched for programs. -/
def State.path (s : State) : String := (s.value? "PATH").getD ""

/-- The place of a program among those that have been found. -/
def bucket (name : String) : Nat :=
  let codes := name.toList.map Char.toNat
  (codes.foldl (· + ·) (16 * codes.head?.getD 0)) % 32768 % 31

/-- Finds programs, or forgets them, or shows them. -/
def hashCommand (args : List String) : Act Nat := do
  let (options, operands) ← optionsOf ['r'] args
  if options.contains 'r' then
    modify fun s => { s with found := [] }
    return 0
  let s ← get
  if operands.isEmpty then
    for name in s.found.mergeSort fun a b => bucket a ≤ bucket b do
      if let some p := programPath? s s.path name then put (p ++ "\n")
    return 0
  let mut status := 0
  for name in operands do
    if (programPath? s s.path name).isSome then
      modify fun s => { s with found := name :: s.found.filter (· ≠ name) }
    else
      warn (name ++ ": not found")
      status := 1
  return status

/-- Commands of the shell whose failure ends the script. -/
def specialNames : List String :=
  [".", ":", "break", "continue", "eval", "exec", "exit", "export", "local", "readonly", "return",
    "set", "shift", "times", "trap", "unset"]

/-- The other commands of the shell. -/
def regularNames : List String :=
  ["[", "alias", "bg", "cd", "chdir", "command", "echo", "false", "fg", "getopts", "hash", "jobs",
    "kill", "printf", "pwd", "read", "test", "true", "type", "ulimit", "umask", "unalias", "wait"]

/-- Whether a name is that of a command of the shell. -/
def isBuiltin (name : String) : Bool :=
  specialNames.contains name || regularNames.contains name

/-- Says what a command means. -/
def describe (path : Option String) (wordy : Bool) (name : String) : Act Nat := do
  let s ← get
  let answer (long short : String) : Act Nat := do
    put ((if wordy then name ++ long else short) ++ "\n")
    return 0
  if keywords.contains name then answer " is a shell keyword" name
  else match s.aliases.get? name with
    | some value =>
      answer (" is an alias for " ++ value) ("alias " ++ name ++ "=" ++ quoteText value)
    | none =>
      if s.functions.contains name then answer " is a shell function" name
      else if specialNames.contains name then answer " is a special shell builtin" name
      else if isBuiltin name then answer " is a shell builtin" name
      else match programPath? s (path.getD s.path) name with
        | some p =>
          let tracked := path.isNone && s.found.contains name
          if !name.toList.contains '/' then
            modify fun s => { s with found := name :: s.found.filter (· ≠ name) }
          answer ((if tracked then " is a tracked alias for " else " is ") ++ p) p
        | none =>
          if wordy then put (name ++ ": not found\n")
          return 127

/-- Says what commands mean. -/
def typeCommand (args : List String) : Act Nat := do
  let (_, operands) ← optionsOf [] args
  let mut status := 0
  for name in operands do
    let r ← describe none true name
    if r ≠ 0 then status := r
  return status

/-- The command of the shell with a name, unless it runs scripts. -/
def builtin? (name : String) : Option (List String → Act Nat) :=
  match name with
  | ":" | "true" => some fun _ => return 0
  | "false" => some fun _ => return 1
  | "echo" => some fun args => do
    put (shellEcho args)
    return 0
  | "printf" => some printfCommand
  | "test" | "[" => some (Test.command name)
  | "pwd" => some pwdCommand
  | "cd" | "chdir" => some cdCommand
  | "read" => some readInput
  | "export" => some exportCommand
  | "readonly" => some readonlyCommand
  | "local" => some localCommand
  | "unset" => some unsetCommand
  | "set" => some setCommand
  | "shift" => some shiftCommand
  | "exit" => some exitCommand
  | "return" => some returnCommand
  | "break" => some (leaveLoop .leaveLoops)
  | "continue" => some (leaveLoop .nextRound)
  | "trap" => some trapCommand
  | "kill" => some killCommand
  | "alias" => some aliasCommand
  | "unalias" => some unaliasCommand
  | "getopts" => some getoptsCommand
  | "wait" => some waitCommand
  | "umask" => some umaskCommand
  | "hash" => some hashCommand
  | "type" => some typeCommand
  | "jobs" => some jobsCommand
  | "fg" | "bg" => some frontCommand
  | "times" => some fun _ => do
    put "0m0.000000s 0m0.000000s\n0m0.000000s 0m0.000000s\n"
    return 0
  | "ulimit" => some ulimitCommand
  | _ => none

end FlowScript.Programs.Shell
