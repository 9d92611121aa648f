import FlowScript.Programs.Shell.Options

/-!
# Signals

Processes are sent signals, which end them unless a trap is set. A process that waits for another
one attends to its signals afterwards.
-/

namespace FlowScript.Programs.Shell

/-- The names of the first signals, by their numbers. -/
def firstSignals : List String :=
  ["EXIT", "HUP", "INT", "QUIT", "ILL", "TRAP", "ABRT", "BUS", "FPE", "KILL", "USR1", "SEGV",
    "USR2", "PIPE", "ALRM", "TERM", "16", "CHLD", "CONT", "STOP", "TSTP", "TTIN", "TTOU", "URG",
    "XCPU", "XFSZ", "VTALRM", "PROF", "WINCH", "IO", "PWR", "SYS"]

/-- The number of signals, counting the one for the end of a script. -/
def signalCount : Nat := 65

/-- The name of a signal. -/
def signalName (n : Nat) : String :=
  match firstSignals[n]? with
  | some name => name
  | none =>
    if n < 34 then toString n
    else if n = 34 then "RTMIN"
    else if n < 50 then "RTMIN+" ++ toString (n - 34)
    else if n < 64 then "RTMAX-" ++ toString (64 - n)
    else "RTMAX"

/-- What is said of a process that a signal has ended. -/
def signalText (n : Nat) : String :=
  let texts := ["", "Hangup", "Interrupt", "Quit", "Illegal instruction", "Trace/breakpoint trap",
    "Aborted", "Bus error", "Floating point exception", "Killed", "User defined signal 1",
    "Segmentation fault", "User defined signal 2", "Broken pipe", "Alarm clock", "Terminated",
    "Stack fault", "Child exited", "Continued", "Stopped (signal)", "Stopped",
    "Stopped (tty input)", "Stopped (tty output)", "Urgent I/O condition",
    "CPU time limit exceeded", "File size limit exceeded", "Virtual timer expired",
    "Profiling timer expired", "Window changed", "I/O possible", "Power failure",
    "Bad system call"]
  match texts[n]? with
  | some text => text
  | none => if n < 34 then "Unknown signal " ++ toString n
    else "Real-time signal " ++ toString (n - 34)

/-- The number of the signal that an argument names, from some number on. A number is always
taken. -/
def signal? (least : Nat) (s : String) : Option Nat :=
  match Text.Integer.natOfDigits? s.toList with
  | some n => if n < signalCount then some n else none
  | none =>
    let upper := String.ofList (s.toList.map Char.toUpper)
    (List.range signalCount).find? fun n => n ≥ least && signalName n = upper

/-! ## Traps -/

/-- Sets what is run when signals come, or shows it. -/
def trapCommand (args : List String) : Act Nat := do
  let (_, operands) ← optionsOf [] args
  match operands with
  | [] =>
    let traps := (← get).traps
    for n in List.range signalCount do
      for (m, action) in traps do
        if m = n then put ("trap -- " ++ quoteText action ++ " " ++ signalName n ++ "\n")
    return 0
  | first :: rest =>
    let resets := rest.isEmpty || (signal? 0 first).isSome
    let (action, names) := if resets then (none, operands)
      else (if first = "-" then none else some first, rest)
    go action names
where
  /-- Sets what is run for signals in order, up to a bad one. -/
  go (action : Option String) : List String → Act Nat
    | [] => return 0
    | name :: names => do
      match signal? 0 name with
      | none =>
        write 2 ("trap: " ++ name ++ ": bad trap\n")
        return 1
      | some n =>
        modify fun s => { s with
          traps := action.toList.map (n, ·) ++ s.traps.filter (·.1 ≠ n) }
        go action names

/-! ## Jobs -/

/-- The number of the next job. A job that is over and known to be takes no number. -/
def takeNumber : Act Nat := do
  let s ← get
  let isFree (n : Nat) : Bool := s.jobs.all fun job =>
    job.number ≠ n || (job.waited && job.ending.isSome)
  let n := ((List.range (s.jobs.length + 1)).map (· + 1)).find? isFree |>.getD 1
  set { s with jobs := s.jobs.filter (·.number ≠ n) }
  return n

/-- How many processes a command takes at least. -/
def processCount : Command → Nat
  | .pipe _ rest => processCount rest + 1
  | _ => 1

/-- The job that an argument names. -/
def findJob (name : String) : Act Job := do
  let jobs := (← get).jobs
  let found ← match name.toList with
    | ['%'] | ['%', '%'] | ['%', '+'] =>
      match jobs with
      | job :: _ => pure (some job)
      | [] => fail "No current job"
    | ['%', '-'] =>
      match jobs with
      | _ :: job :: _ => pure (some job)
      | _ => fail "No previous job"
    | '%' :: cs => pure (jobs.find? fun job => some job.number = Text.Integer.natOfDigits? cs)
    | cs => pure (jobs.find? fun job => some job.pid = Text.Integer.natOfDigits? cs)
  match found with
  | some job => return job
  | none => fail ("No such job: " ++ name)

/-- Changes what is known of a job. -/
def changeJob (pid : Nat) (f : Job → Job) : Act Unit :=
  modify fun s => { s with jobs := s.jobs.map fun job => if job.pid = pid then f job else job }

/-- Says that a signal has ended a process, unless it is one that goes without saying. -/
def announce : Ending → Act Unit
  | .exited _ => return ()
  | .killed n => if n = 2 || n = 13 then return () else write 2 (signalText n ++ "\n")

/-- What a shell does once something has ended that it waits for: the status. -/
def finish (ending : Ending) : Act Nat := do
  attend
  announce ending
  return ending.status

/-- The status of a job that has been waited for. -/
def collect (job : Job) : Act Nat := do
  changeJob job.pid fun job => { job with waited := true, noticed := true }
  match job.ending with
  | none => return 0
  | some ending =>
    if !job.noticed then announce ending
    return ending.status

/-- Waits for jobs, which have all ended. -/
def waitCommand (args : List String) : Act Nat := do
  let (_, operands) ← optionsOf [] args
  -- a signal ends the waiting
  if let n :: _ := (← get).signals then return 128 + n
  if operands.isEmpty then
    modify fun s => { s with
      jobs := s.jobs.map fun job => { job with waited := true, noticed := true } }
    return 0
  let mut status := 0
  for arg in operands do
    if arg.toList.head? = some '%' then status ← collect (← findJob arg)
    else
      let pid ← number arg
      match (← get).jobs.find? (·.pid = pid) with
      | some job => status ← collect job
      | none => status := 127
  return status

/-- Shows jobs. Those that have ended are forgotten then. -/
def jobsCommand (args : List String) : Act Nat := do
  let (options, operands) ← optionsOf ['l', 'p'] args
  let jobs ← if operands.isEmpty then pure (← get).jobs else operands.mapM findJob
  for job in jobs do
    let known := (← get).jobs
    let mark := if known.head?.any (·.pid = job.pid) then "+"
      else if (known.drop 1).head?.any (·.pid = job.pid) then "-" else " "
    if options.getLast? = some 'p' then put (toString job.pid ++ "\n")
    else
      let head := "[" ++ toString job.number ++ "] " ++ mark ++ " " ++
        (if options.isEmpty then "" else toString job.pid ++ " ")
      let state := match job.ending with
        | none => "Running"
        | some (.exited 0) => "Done"
        | some (.exited n) => "Done(" ++ toString n ++ ")"
        | some (.killed n) => signalText n
      let fill := Nat.max (33 - (head ++ state).length) 1
      let more := String.join (List.replicate (job.size - 1) " | ")
      put (head ++ state ++ String.ofList (List.replicate fill ' ') ++ more ++ "\n")
      if job.ending.isSome then
        modify fun s => { s with jobs := s.jobs.filter (·.pid ≠ job.pid) }
  return 0

/-- Would bring a job to the front, which only a shell in control of its jobs can do. -/
def frontCommand (args : List String) : Act Nat := do
  let (_, operands) ← optionsOf [] args
  let name := operands.head?
  let _ ← findJob (name.getD "%%")
  fail ("job " ++ name.getD "(null)" ++ " not created under job control")

/-! ## Sending -/

/-- Sends a signal to a process. Whether there is one. -/
def sendTo (pid n : Nat) : Act Bool := do
  let s ← get
  if pid = s.self then
    raise n
    return true
  else if s.parents.contains pid then
    set { s with posted := s.posted ++ [(pid, n)] }
    return true
  else if s.later.any (·.1 = pid) then
    -- what runs in the background is not interrupted
    if n = 0 || n = 2 || n = 3 || harmless.contains n then return true
    else
      set { s with later := s.later.filter (·.1 ≠ pid) }
      changeJob pid fun job => { job with ending := some (.killed n), noticed := false }
      return true
  else return s.jobs.any fun job => job.pid = pid && !job.waited

/-- Sends signals, or shows their names. -/
def killCommand (args : List String) : Act Nat := do
  let usage := "Usage: kill [-s sigspec | -signum | -sigspec] [pid | job]... or\n" ++
    "kill -l [exitstatus]"
  let direct := match args.head?.map String.toList with
    | some ('-' :: name) => signal? 1 (String.ofList name)
    | _ => none
  let (options, targets) ←
    if direct.isSome then pure ([], args.drop 1)
    else if args.head?.any (·.toList.head? = some '-') then
      takeOptions ['l'] ['s'] (args.length + (String.join args).length) args
    else pure ([], args)
  let lists := options.any (·.1 = 'l')
  let mut signal := direct
  for (letter, name) in options do
    if letter = 's' then
      signal := signal? 1 name
      if signal.isNone then fail ("invalid signal number or name: " ++ name)
  if lists then
    match targets with
    | [] =>
      put (String.join ("0\n" :: (List.range signalCount).tail.map (signalName · ++ "\n")))
      return 0
    | arg :: _ =>
      if signal.isSome then fail usage
      let n ← number arg
      let n := if n > 128 then n - 128 else n
      if 0 < n && n < signalCount then
        put (signalName n ++ "\n")
        return 0
      else fail ("invalid signal number or exit status: " ++ arg)
  else if targets.isEmpty then fail usage
  else
    let mut status := 0
    for target in targets do
      let reached ← match target.toList with
        | '%' :: _ => do
          let _ ← findJob target
          pure false
        | '-' :: cs => do
          let _ ← number (String.ofList cs)
          pure false
        | _ => sendTo (← number target) (signal.getD 15)
      if !reached then
        warn "No such process\n"
        status := 1
    return status

end FlowScript.Programs.Shell
