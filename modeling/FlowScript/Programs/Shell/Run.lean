import FlowScript.Programs.Shell.Builtins
import FlowScript.Programs.Shell.Redirect
import FlowScript.Programs.Shell.Startup
import FlowScript.Programs.Shell.Target
import FlowScript.Programs.Shell.Utility

/-!
# Running scripts

Commands are run one after the other. Each yields a status, and what stops one may stop the script.
The fuel bounds how deep commands are nested and how often loops go round.
-/

namespace FlowScript.Programs.Shell

/-- How deep functions may call each other, and shells start others. -/
def depthLimit : Nat := 1000

/-- How deep scripts may run others in one process. -/
def nestingLimit : Nat := 9000

/-- Runs a script inside another one, up to some depth. A process that goes further is ended. -/
def deeper {β : Type} (limit : Nat) (act : Act β) : Act β := do
  let depth := (← get).depth
  if depth ≥ limit then throw (.killed 11)
  else
    modify fun s => { s with depth := depth + 1 }
    ensuring act (modify fun s => { s with depth := depth })

/-- What a loop does after a round: whether it goes on. -/
def endRound : Act Bool := do
  let s ← get
  match s.skip with
  | .nothing => return true
  | .leaveLoops n =>
    set { s with skip := if n ≤ 1 then .nothing else .leaveLoops (n - 1) }
    return false
  | .nextRound n =>
    set { s with skip := if n ≤ 1 then .nothing else .nextRound (n - 1) }
    return n ≤ 1
  | .leaveFunction _ => return false

/-- What comes after so many lines. -/
def afterLines : Nat → List Char → List Char
  | 0, cs => cs
  | n + 1, cs => afterLines n ((cs.dropWhile (· ≠ '\n')).drop 1)

/-- Whether something is being passed over. -/
def isSkipping : Act Bool := return (← get).skip ≠ .nothing

/-- The value of a variable that is shown before something else, with what is in it expanded. It is
shown as it stands if that fails. -/
def expandPrompt (output : Option Command → Act String) (name : String) : Act String := do
  let s ← get
  let text := (s.value? name).getD ""
  let expanded : Act String := do
    match promptWord text s.ended with
    | .error fault =>
      modify fun s => { s with ended := false, line := fault.line }
      fail fault.text
    | .ok (w, r) =>
      modify fun s => { s with ended := r.again }
      expandDocument output w
  ensuring (tryCatch expanded fun
    | .error _ => return text
    | e => throw e) (modify fun after => { after with line := s.line, status := s.status })

/-- Shows a command before it is run, if that is asked for. -/
def traceCommand (output : Option Command → Act String) (descriptors : List (Nat × Nat))
    (words : List String) : Act Unit := do
  if (← option 'x') && !(← get).tracing then
    modify fun s => { s with tracing := true }
    let mark ← ensuring (expandPrompt output "PS4") (modify fun s => { s with tracing := false })
    let text := mark ++ Text.join " " words ++ "\n"
    changeStreams fun s =>
      match descriptors.find? (·.1 = 2) with
      | some (_, n) => (s.writeTo n text).toOption.getD s
      | none => s

/-- The command `command` where it does not call one. -/
def commandCommand (args : List String) : Act Nat := do
  let (options, operands) ← optionsOf ['p', 'v', 'V'] args
  let path := if options.contains 'p' then some usualPath else none
  match operands with
  | [] => return 0
  | name :: _ =>
    if options.contains 'V' then describe path true name
    else if options.contains 'v' then describe path false name
    else return 0

/-- Takes note of the program that a part of a pipe calls, if it is plain to see. -/
def notePart (c : Command) : Act Unit := do
  match c with
  | .simple _ _ (w :: _) _ =>
    let s ← get
    match literal? w with
    | some name =>
      if isVariableName name.toList && !isBuiltin name && !s.functions.contains name &&
          (programPath? s s.path name).isSome then
        set { s with found := name :: s.found.filter (· ≠ name) }
    | none => return ()
  | _ => return ()

/-- How much the first command of a pipe may write before somebody reads it, if others follow. What
goes through several commands needs more room at the beginning. -/
def pipeRoom : Command → Nat
  | .pipe _ rest => 2 * pipeRoom rest
  | _ => 65536

/-- How a command is run. -/
structure Manner where
  /-- Whether its failure is expected. -/
  tested : Bool := false
  /-- Whether the process has nothing else to do afterwards. -/
  last : Bool := false

/-- The manner of a part that others follow. -/
def Manner.inner (m : Manner) : Manner := { m with last := false }

/-- The manner of all that is left to do for a process of its own. -/
def Manner.whole (m : Manner) : Manner := { m with last := true }

/-- How many rounds a script in the background may run before the shell goes on without it. -/
def patience : Nat := 20000

/-- Begins a round of a loop. -/
def beginRound : Act Unit := do
  match (← get).rounds with
  | none => return ()
  | some 0 => throw .endless
  | some (n + 1) => modify fun s => { s with rounds := some n }

mutual

/-- Runs a command. -/
def run : (fuel : Nat) → Manner → Command → Act Nat
  | 0, _, _ => throw .endless
  | fuel + 1, m, c => do
    if ← option 'n' then return 0
    match c with
    | .sequence a b =>
      let status ← run fuel m.inner a
      if ← isSkipping then return status
      else run fuel m b
    | .both a b =>
      let status ← run fuel { tested := true } a
      if status ≠ 0 || (← isSkipping) then return status
      else run fuel m b
    | .either a b =>
      let status ← run fuel { tested := true } a
      if status = 0 || (← isSkipping) then return status
      else run fuel m b
    | .choice condition yes no =>
      let status ← run fuel { tested := true } condition
      if ← isSkipping then return status
      else if status = 0 then run fuel m yes
      else match no with
        | some c => run fuel m c
        | none => settle fuel m false 0
    | .negate a =>
      let status ← run fuel { tested := true } a
      if ← isSkipping then return status
      else settle fuel m false (if status = 0 then 1 else 0)
    | .simple line assigns words redirects =>
      let status ← runSimple fuel m line assigns words redirects
      settle fuel m true status
    | .pipe a b =>
      wait fuel
      let status ← runPipe fuel m none (.pipe a b)
      settle fuel m true status
    | .nested line body redirects =>
      modify fun s => { s with line := line }
      let openings ← redirects.mapM (expandRedirect (takeOutput fuel))
      let act : Act Nat := do
        if ← openStreams (takeOutput fuel) false openings then run fuel m.whole body else return 2
      if m.last && !(← get).hasTraps then throw (.exit (← act))
      wait fuel
      settle fuel m true (← subshell fuel act)
    | .background body =>
      let number ← takeNumber
      modify fun s =>
        let pid := s.nextProcess
        { s with
          job := some pid, nextProcess := pid + 1, later := s.later ++ [(pid, body, s, false)]
          jobs := { number := number, pid := pid, size := processCount body } :: s.jobs }
      settle fuel m false 0
    | .redirected line body redirects =>
      modify fun s => { s with line := line }
      let openings ← redirects.mapM (expandRedirect (takeOutput fuel))
      let descriptors := (← get).streams.descriptors
      let (status, refused) ← ensuring (do
        if ← openStreams (takeOutput fuel) true openings then
          return (← run fuel m.inner body, false)
        else return (2, true))
        (restoreDescriptors descriptors)
      settle fuel m refused status
    | .loop onFailure condition body =>
      modify fun s => { s with loops := s.loops + 1 }
      let status ← runLoop fuel m.inner onFailure condition body 0
      modify fun s => { s with loops := s.loops - 1 }
      settle fuel m false status
    | .each line name words body =>
      modify fun s => { s with line := line }
      let fields ← expandRest (takeOutput fuel) false words
      modify fun s => { s with loops := s.loops + 1 }
      let status ← runEach fuel m.inner name body 0 fields
      modify fun s => { s with loops := s.loops - 1 }
      settle fuel m false status
    | .select line subject arms =>
      modify fun s => { s with line := line }
      let text ← expandText (takeOutput fuel) subject
      let status ← runArms fuel m text.toList arms
      settle fuel m false status
    | .define name body =>
      modify fun s => { s with functions := s.functions.insert name body }
      settle fuel m false 0

/-- Takes note of the status of a command. A failure that counts may end the script, and signals
that have come are attended to. -/
def settle : (fuel : Nat) → Manner → (counts : Bool) → (status : Nat) → Act Nat
  | 0, _, _, _ => throw .endless
  | fuel + 1, m, counts, status => do
    modify fun s => { s with status := status }
    if counts && !m.tested && status ≠ 0 && (← option 'e') then throw (.exit status)
    runTraps fuel status

/-- Runs the traps of the signals that have come, in the order of their numbers. The status stays,
unless a trap returns another one. -/
def runTraps : (fuel : Nat) → (status : Nat) → Act Nat
  | 0, _ => throw .endless
  | fuel + 1, status => do
    let s ← get
    if s.signals.isEmpty || s.skip ≠ .nothing then return status
    let n := s.signals.foldl Nat.min signalCount
    set { s with signals := s.signals.filter (· ≠ n) }
    if let some (_, action) := s.traps.find? (·.1 = n) then
      let result ← deeper nestingLimit (runText fuel {} (.ofText action false))
      let status := if (← get).skip = .leaveFunction true then result else status
      modify fun s => { s with status := status }
      runTraps fuel status
    else runTraps fuel status

/-- Runs commands of which each reads what the one before shows. `input` is what the first one
reads. -/
def runPipe : (fuel : Nat) → Manner → (input : Option Stream) → Command → Act Nat
  | 0, _, _, _ => throw .endless
  | fuel + 1, m, input, c => do
    match c with
    | .pipe a b =>
      notePart a
      runJoint fuel m input (pipeRoom b) a b
    | c =>
      notePart c
      subshell fuel do
        if let some input := input then changeStreams (·.connect 0 input)
        run fuel m.whole c

/-- Runs the first command of a pipe: the buffer that it writes to, and whether it has to wait for a
reader there. -/
def runFirst : (fuel : Nat) → Manner → (input : Option Stream) → Room → Command →
    Act (Nat × Bool)
  | 0, _, _, _, _ => throw .endless
  | fuel + 1, m, input, room, c => do
    let n := (← get).streams.opened.size
    changeStreams fun s => (s.add (.buffer [] 0 room)).2
    let waits ← tryCatch (do
      let _ ← subshell fuel do
        if let some input := input then changeStreams (·.connect 0 input)
        changeStreams (·.bind 1 (some n))
        run fuel m.whole c
      return false) fun
        | .waiting k => if k = n then return true else throw (.waiting k)
        | e => throw e
    return (n, waits)

/-- Runs the first command of a pipe and then the others. If the first has to wait for a reader, the
others are tried on what there is: if they want more, all begins again with more room, and if they
do not, nobody reads what the first writes then. -/
def runJoint : (fuel : Nat) → Manner → (input : Option Stream) → (room : Nat) →
    (first rest : Command) → Act Nat
  | 0, _, _, _, _, _ => throw .endless
  | fuel + 1, m, input, room, a, b => do
    let before ← get
    let (n, waits) ← runFirst fuel m input (.limited room) a
    let streams := (← get).streams
    let reader := streams.reader n waits
    if !waits then runPipe fuel m (some reader) b
    else
      set before
      changeStreams fun s => (s.add (.buffer [streams.buffered n] 0 .endless)).2
      let starves ← tryCatch (do
        let _ ← runPipe fuel m (some reader) b
        return false) fun
          | .starved k => if k = n then return true else throw (.starved k)
          | e => throw e
      set before
      if starves then runJoint fuel m input (2 * room) a b
      else
        let (n, _) ← runFirst fuel m input (.abandoned room) a
        runPipe fuel m (some ((← get).streams.reader n true)) b

/-- Runs a loop under a condition. -/
def runLoop : (fuel : Nat) → Manner → (onFailure : Bool) → (condition body : Command) →
    (status : Nat) → Act Nat
  | 0, _, _, _, _, _ => throw .endless
  | fuel + 1, m, onFailure, condition, body, status => do
    beginRound
    let test ← run fuel { tested := true } condition
    if ← isSkipping then
      let isReturn := (← get).skip.isReturn
      if ← endRound then runLoop fuel m onFailure condition body status
      else return if isReturn then test else status
    else if (test = 0) = onFailure then return status
    else
      let status ← run fuel m body
      if ← endRound then runLoop fuel m onFailure condition body status
      else return status

/-- Runs a loop over fields. -/
def runEach : (fuel : Nat) → Manner → (name : String) → (body : Command) →
    (status : Nat) → List String → Act Nat
  | 0, _, _, _, _, _ => throw .endless
  | _, _, _, _, status, [] => return status
  | fuel + 1, m, name, body, _, field :: rest => do
    assign name field
    let status ← run fuel m body
    if ← endRound then runEach fuel m name body status rest
    else return status

/-- Runs the first arm that has a pattern for a text. -/
def runArms : (fuel : Nat) → Manner → (text : List Char) →
    List (List Word × Option Command) → Act Nat
  | 0, _, _, _ => throw .endless
  | _, _, _, [] => return 0
  | fuel + 1, m, text, (patterns, body) :: rest => do
    if ← anyMatches fuel text patterns then
      match body with
      | some c => run fuel m c
      | none => return 0
    else runArms fuel m text rest

/-- Whether one of some patterns matches a text. -/
def anyMatches : (fuel : Nat) → (text : List Char) → List Word → Act Bool
  | 0, _, _ => throw .endless
  | _, _, [] => return false
  | fuel + 1, text, w :: rest => do
    if Pattern.isMatch (← expandPattern (takeOutput fuel) w) text then return true
    else anyMatches fuel text rest

/-- Does something in a shell of its own and yields the status that it leaves. -/
def subshell : (fuel : Nat) → Act Nat → Act Nat
  | 0, _ => throw .endless
  | fuel + 1, act => do finish (← isolated (leave fuel act))

/-- Has the shell wait for something else than a job. The jobs are run meanwhile. -/
def wait : (fuel : Nat) → Act Unit
  | 0 => throw .endless
  | fuel + 1 => do
    runLater fuel false
    let _ ← takeNumber
    modify fun s => { s with
      jobs := s.jobs.map fun job => { job with noticed := job.noticed || job.ending.isSome } }

/-- Runs the scripts in the background. They are run once the shell waits for something. Those that
take long are put off until somebody waits for them. -/
def runLater : (fuel : Nat) → (awaited : Bool) → Act Unit
  | 0, _ => throw .endless
  | fuel + 1, awaited => do
    let s ← get
    let isDue (job : Nat × Command × State × Bool) : Bool := awaited || !job.2.2.2
    match s.later.find? isDue with
    | none => attend
    | some (pid, body, start, _) =>
      let others := s.later.filter (·.1 ≠ pid)
      set { s with later := others }
      let act := isolated do
        set { start with
          streams := { s.streams with
            descriptors := start.streams.descriptors
            files := start.streams.files.keepPlace s.streams.files }
          documents := s.documents, nextDocument := s.nextDocument
          traps := start.traps.filter (·.2.isEmpty), signals := [], jobs := [], later := []
          self := pid, parents := s.self :: s.parents, nextProcess := s.nextProcess
          posted := s.posted, rounds := if awaited then s.rounds else some patience
          -- what runs in the background is not interrupted
          ignored := 2 :: 3 :: start.ignored }
        changeStreams (·.connect 0 .void)
        leave fuel (run fuel { last := true } body)
      let ending ← tryCatch (do return some (← act)) fun
        | .endless => if awaited then throw .endless else return none
        | e => throw e
      match ending with
      | some ending =>
        changeJob pid fun job => { job with ending := some ending, noticed := !awaited }
      | none => set { s with later := others ++ [(pid, body, start, true)] }
      runLater fuel awaited

/-- Does something and leaves the shell, which may run a trap. -/
def leave : (fuel : Nat) → Act Nat → Act Ending
  | 0, _ => throw .endless
  | fuel + 1, act => do
    let stop ← tryCatch (do return Stop.exit (← act))
      (fun e => if e.isPending then throw e else return e)
    let s ← get
    let traps := match stop with
      | .gone _ | .killed _ => []
      | _ => s.traps
    let ending ← match traps.find? (·.1 = 0) with
      | some (_, action) => do
        modify fun s => { s with
          traps := s.traps.filter (·.1 ≠ 0), status := stop.status, leaving := some stop.status
          skip := .nothing, command := none }
        tryCatch (do
          let _ ← runText fuel {} (.ofText action false)
          return stop.ending) (fun e => if e.isPending then throw e else return e.ending)
      | none => pure stop.ending
    runLater fuel false
    return ending

/-- The output of a script. -/
def takeOutput : (fuel : Nat) → Option Command → Act String
  | 0, _ => throw .endless
  | _, none => return ""
  | fuel + 1, some c => do
    let n := (← get).streams.opened.size
    changeStreams fun s => (s.add (.buffer [] 0 .endless)).2
    wait fuel
    let status ← subshell fuel do
      changeStreams (·.bind 1 (some n))
      run fuel { last := true } c
    modify fun s => { s with outputStatus := status }
    return (← get).streams.buffered n

/-- Runs the lines of a script. -/
def runLines : (fuel : Nat) → Manner → (status : Nat) → Reader → Act Nat
  | 0, _, _, _ => throw .endless
  | fuel + 1, m, status, r => do
    let s ← get
    let showLines (rest : List Char) : Act Unit := do
      if r.visible && s.has 'v' then
        write 2 (String.ofList (r.chars.take (r.chars.length - rest.length)))
    let askFor (lines : Nat) : Act Unit := do
      if r.prompts then
        write 2 (← expandPrompt (takeOutput fuel) "PS1")
        for _ in List.range lines do write 2 (← expandPrompt (takeOutput fuel) "PS2")
    match { r with next := s.nextDocument, aliases := s.aliases }.advance with
    | .error fault =>
      askFor (fault.line - r.line)
      showLines (afterLines (fault.line + 1 - r.line) r.chars)
      modify fun s => { s with line := fault.line }
      fail fault.text
    | .ok (none, after) =>
      askFor 0
      if r.prompts then write 2 "\n"
      showLines after.chars
      modify fun s => { s with ended := true }
      return status
    | .ok (some c, after) =>
      askFor (after.line - r.line - (if after.hasEnded then 0 else 1))
      let r := after
      showLines r.chars
      modify fun s => { s with
        nextDocument := r.next, documents := r.documents ++ s.documents, linesRead := r.line
        ended := r.hasEnded }
      let status ← match c with
        | some c => run fuel m c
        | none => pure status
      if ← isSkipping then return status
      else runLines fuel m status r

/-- Runs a script. -/
def runText : (fuel : Nat) → Manner → Reader → Act Nat
  | 0, _, _ => throw .endless
  | fuel + 1, m, r => do
    let linesRead := (← get).linesRead
    let status ← runLines fuel m 0 r
    modify fun s => { s with linesRead := linesRead }
    return status

/-- Runs a simple command. -/
def runSimple : (fuel : Nat) → Manner → (line : Nat) → List (String × Word) → List Word →
    List Redirect → Act Nat
  | 0, _, _, _, _, _ => throw .endless
  | fuel + 1, m, line, assigns, words, redirects => do
    modify fun s => { s with line := line, outputStatus := 0 }
    let (t, fields, words) ← seek (takeOutput fuel) (words.length + 1) {} [] words
    let name := fields[t.position]?
    let isFunction := !t.noFunctions && (name.any (← get).functions.contains)
    let own := !isFunction && name.any isBuiltin
    let assigning := own && name.any ["export", "readonly", "local"].contains
    let fields := fields ++ (← expandRest (takeOutput fuel) assigning words)
    let special := own && t.position = 0 && name.any specialNames.contains
    let openings ← redirects.mapM (expandRedirect (takeOutput fuel))
    let descriptors := (← get).streams.descriptors
    let isExec := own && name = some "exec"
    ensuring (do
      if !(← openStreams (takeOutput fuel) true openings) then
        modify fun s => { s with status := 2 }
        if special then throw (.error 2) else return 2
      else
        let before := (← get).vars
        let temporary := name.isSome && !special
        let exports := temporary || (isExec && fields.length > t.position + 1)
        ensuring (do
          let values ← runAssigns fuel exports assigns
          traceCommand (takeOutput fuel) descriptors (values ++ fields)
          match name with
          | none => return (← get).outputStatus
          | some name =>
            let args := fields.drop (t.position + 1)
            let path := if t.usual then some usualPath else none
            if isFunction then callFunction fuel m.inner name args
            else if own then runBuiltin fuel m.inner special name args
            else if m.last && !(← get).hasTraps then
              throw (← launch fuel true path name args).stop
            else finish (← launch fuel false path name args))
          (if temporary then
            modify fun s => assigns.reverse.foldl (fun s (n, _) => s.restore n (before.get? n)) s
          else return ()))
      (if isExec then return () else restoreDescriptors descriptors)

/-- Carries out assignments, and yields them as text. -/
def runAssigns : (fuel : Nat) → (exports : Bool) → List (String × Word) → Act (List String)
  | 0, _, _ => throw .endless
  | _, _, [] => return []
  | fuel + 1, exports, (name, w) :: rest => do
    let value ← expandAssigned (takeOutput fuel) w
    assign name value
    if exports then
      modify fun s => s.put name { ((s.vars.get? name).getD ⟨none, false, false⟩) with
        exported := true }
    return (name ++ "=" ++ value) :: (← runAssigns fuel exports rest)

/-- Calls a function. -/
def callFunction : (fuel : Nat) → Manner → (name : String) → List String → Act Nat
  | 0, _, _, _ => throw .endless
  | fuel + 1, m, name, args => do
    let s ← get
    match s.functions.get? name with
    | none => return 127
    | some body =>
      if s.calls.length ≥ depthLimit then
        fail ("Maximum function recursion depth (" ++ toString depthLimit ++ ") reached")
      set { s with params := args, loops := 0, calls := [] :: s.calls, place := {} }
      ensuring (do
        let status ← run fuel m body
        modify fun s => { s with skip := if s.skip.isReturn then .nothing else s.skip }
        return status)
        (modify fun after =>
          { after.undo (after.calls.head?.getD []) with
            params := s.params, loops := s.loops, calls := s.calls
            place := s.place })

/-- Runs a command of the shell. -/
def runBuiltin : (fuel : Nat) → Manner → (special : Bool) → (name : String) → List String → Act Nat
  | 0, _, _, _, _ => throw .endless
  | fuel + 1, m, special, name, args => do
    let before ← get
    set { before with command := some name, broken := false }
    let act : Act Nat := match name with
      | "wait" => do
        runLater fuel true
        waitCommand args
      | "eval" =>
        if args.isEmpty then return 0
        else deeper nestingLimit (runText fuel m (.ofText (Text.join " " args) false))
      | "." => readIn fuel args
      | "exec" => replaceBy fuel args
      | "command" => commandCommand args
      | name => match builtin? name with
        | some f => f args
        | none => return 0
    let status ← ensuring (tryCatch act fun
        | .error status => if special then throw (.error status) else return status
        | e => throw e) do
      if (← get).broken then warn (name ++ ": I/O error")
      modify fun s => { s with command := before.command }
    let broken := (← get).broken
    modify fun s => { s with broken := before.broken }
    return if broken && status = 0 then 1 else status

/-- Runs the script in a file. -/
def readIn : (fuel : Nat) → List String → Act Nat
  | 0, _ => throw .endless
  | fuel + 1, args => do
    let (_, operands) ← optionsOf [] args
    match operands with
    | [] => return 0
    | name :: _ =>
      let s ← get
      let path ← if name.toList.contains '/' then pure name
        else
          let isFile (p : String) : Bool := match s.streams.files.entry (Text.ofRaw p) with
            | .ok (.file _) => true
            | _ => false
          match (candidates s.path name).find? isFile with
          | some p => pure p
          | none => fail (name ++ ": not found")
      match s.streams.readAll (Text.ofRaw path) with
      | .error .isADirectory => return 0
      | .error e => fail ("cannot open " ++ path ++ ": " ++ openReason false e)
      | .ok (bytes, streams) => deeper nestingLimit do
        modify fun s => { s with command := some path, streams := streams }
        let status ← runText fuel {} (.ofText (Text.spread bytes) true)
        modify fun s => { s with skip := if s.skip.isReturn then .nothing else s.skip }
        return status

/-- Has a program take the place of the shell. -/
def replaceBy : (fuel : Nat) → List String → Act Nat
  | 0, _ => throw .endless
  | fuel + 1, args => do
    match args with
    | [] => return 0
    | name :: args =>
      let s ← get
      match locate s.path s.streams.files (Text.ofRaw name) with
      | .ok _ => throw (← launch fuel true none name args).stop
      | .error e =>
        let refused := e = .permissionDenied
        let missing := e = .notFound || e = .notADirectory
        warn (name ++ ": " ++ (if missing then "not found" else reason e))
        throw (.exit (if refused then 126 else 127))

/-- Runs a program, which may take the place of the shell. -/
def launch : (fuel : Nat) → (replaces : Bool) → (path : Option String) → (name : String) →
    List String → Act Ending
  | 0, _, _, _, _ => throw .endless
  | fuel + 1, replaces, path, name, args => do
    let s ← get
    let found : Except IoError String :=
      -- a path that ends in a slash is a directory
      if name.isEmpty then .error .permissionDenied
      else locate (path.getD s.path) s.streams.files (Text.ofRaw name)
    match found with
    | .error e =>
      warn (name ++ ": " ++ (if e = .notFound || e = .notADirectory then "not found" else reason e))
      return .exited (if e = .permissionDenied && name.toList.contains '/' then 126 else 127)
    | .ok program =>
      wait fuel
      if !name.toList.contains '/' then
        modify fun s => { s with found := name :: s.found.filter (· ≠ name) }
      let before ← get
      let self := if replaces then before.self else before.nextProcess
      let next := if replaces then before.nextProcess else before.nextProcess + 1
      match utility? program with
      | some p =>
        set { before with nextProcess := next }
        runUtility p (program = "cat") name args
      | none =>
        let parents := if replaces then before.parents else before.self :: before.parents
        set { State.start name before.exports parents before.streams with
          depth := before.depth, documents := before.documents
          nextDocument := before.nextDocument, shell := self, self := self, nextProcess := next
          mask := before.mask, limits := before.limits, posted := before.posted
          ignored := before.deafTo, rounds := before.rounds }
        ensuring (leave fuel (deeper depthLimit (startShell fuel args))) (modify before.resume)

/-- Starts a shell with arguments. -/
def startShell : (fuel : Nat) → List String → Act Nat
  | 0, _ => throw .endless
  | fuel + 1, args => do
    modify fun s => { s with line := 0 }
    let start := Startup.ofArgs args
    if let some e := start.fault then ensuring (fail e) (put start.lists)
    -- a shell that one talks to controls its jobs
    let talks := start.options.contains 'i'
    let introduce (name : Option String) (params : List String) : Act Unit := do
      modify fun s => { s with
        options := (if talks then ['m'] else []) ++ start.options
        name := name.getD s.name, params := params }
      controlJobs
      put start.lists
    -- an error does not end a talk
    let goOn (act : Act Nat) (later : Act Nat) : Act Nat := tryCatch act fun
      | .error status => do
        if !talks then throw (.error status)
        modify fun s => { s with status := status }
        later
      | e => throw e
    -- what was read ahead is dropped, so that nothing is left to read
    let run (bytes : Text.Bytes) : Act Nat :=
      let r := Reader.ofText (Text.spread bytes) true
      goOn (runText fuel {} { r with prompts := talks }) do
        write 2 ((← expandPrompt (takeOutput fuel) "PS1") ++ "\n")
        return (← get).status
    let fromInput : Act Nat := do
      let s ← get
      set { s with streams := s.streams.drain 0 }
      let _ ← run ((s.streams.left 0).getD [])
      if let some n := s.streams.writer? 0 then throw (.starved n)
      return (← get).status
    let reads : Act Unit := modify fun s => { s with options := 's' :: s.options }
    match start.isCommand, start.args with
    | true, script :: rest =>
      introduce rest.head? rest.tail
      if start.isInput then reads
      goOn (do
        let status ← runText fuel {} (.ofText script false)
        if start.isInput then
          modify fun s => { s with status := status }
          fromInput
        else return status) fromInput
    | _, [] =>
      introduce none []
      reads
      fromInput
    | false, file :: rest =>
      if start.isInput then
        introduce none start.args
        reads
        fromInput
      else match (← get).streams.readAll (Text.ofRaw file) with
        | .error .isADirectory =>
          introduce (some file) rest
          run []
        | .error e => fail ("cannot open " ++ file ++ ": " ++ openReason false e)
        | .ok (bytes, streams) =>
          changeStreams fun _ => streams
          introduce (some file) rest
          run bytes

end

/-- The fuel of a shell. -/
def fuelLimit : Nat := 1000000000

/-- Runs a shell: the status, and the streams as they are left. -/
def shell (s : Start) : Nat × Streams :=
  let input := match s.input with
    | .text left _ => left
    | _ => ""
  let streams := Streams.start s.files input
  let (r, after) := (leave fuelLimit (startShell fuelLimit s.args)).run.run
    (State.start s.name s.vars [] streams)
  match r with
  | .ok ending => (ending.status, after.streams)
  | .error e => (e.status, after.streams)

end FlowScript.Programs.Shell
