import FlowScript.Builtin.Catalog
import FlowScript.Builtin.Pause
import FlowScript.Host.Saved
import FlowScript.Run.Event

/-!
# What the builtin commands do

Each builtin command does one thing with what its kind may touch. A command that is asked for
something outside its kind does nothing and succeeds.
-/

namespace FlowScript.Builtin

/-! ## Ordinary commands -/

/-- Gives up for a reason and changes nothing. -/
def refuse {σ : Type} (text : String) (s : σ) : Verdict × σ :=
  (.error (.ofText text), s)

/-- Succeeds after showing a line. -/
def showLine (line : String) (s : Env × World) : Verdict × Env × World :=
  (.ok true, s.1, s.2.putLine line)

/-- Waits for the number of seconds that a text writes. -/
def pauseFor (raw : String) (s : Env × World) : Verdict × Env × World :=
  match Text.Number.read (Text.trim raw) with
  | .error e => (.error ⟨[s!"'{raw}' is not a number of seconds", e.message]⟩, s)
  | .ok n =>
    match duration n with
    | .error e => refuse (s!"'{raw}' is not a valid duration: " ++ e.message) s
    | .ok d => (.ok true, s.1, s.2.emit (.pause d))

/-- Shows every key that is seen and its text. -/
def listEnv (s : Env × World) : Verdict × Env × World :=
  let (env, w) := s
  let shown := env.flatten
  let w := if shown.isEmpty then w.putLine (w.paint .dimmed "(env is empty)") else w
  (.ok true, env,
    shown.entries.foldl (fun w (key, value) => w.putLine (w.paint .cyan key ++ " = " ++ value)) w)

/-! ## Saving -/

/-- The key of the path that values are saved to. -/
def envFileKey : String := "sys.env-file"

/-- Whether a key belongs to the run itself; such keys are not saved. -/
def isReserved (key : String) : Bool :=
  "sys.".toList.isPrefixOf key.toList

/-- Copies texts to the persisted layer, reserved keys left aside. -/
def keep (texts : Dict String) (env : Env) : Env :=
  texts.entries.foldl
    (fun env (key, value) => if isReserved key then env else env.setIn .persisted key value) env

/-- Copies the session to the persisted layer and writes that layer to the file. -/
def saveEnv (s : Env × World) : Verdict × Env × World :=
  let (env, w) := s
  match env.nearest? .session, env.nearest? .persisted, env.get? envFileKey with
  | none, _, _ => refuse "no session env layer" s
  | some _, none, _ => refuse "no persisted env layer" s
  | some _, some _, none => refuse s!"'{envFileKey}' is not set, nowhere to save to" s
  | some session, some persisted, some target =>
    let env := keep session.own.texts env
    -- the layer as it is after the copy: keys it held before are saved again
    let layer := ((env.nearest? .persisted).getD persisted).own
    let (outcome, files) := Saved.save w.files target layer
    let w := { w with files := files }
    match outcome with
    | .error e => (.error ⟨e.texts⟩, env, w)
    | .ok count =>
      let count := Text.Integer.write count
      (.ok true, env, w.putLine (s!"Saved {count} key(s) to " ++ w.paint .green target))

/-- What an ordinary command does. -/
def act (b : Builtin) (args : ArgVals) (s : Env × World) : Verdict × Env × World :=
  match b with
  | dummy => showLine "dummy cmd here" s
  | echo => showLine (args.get "message") s
  | sleep => pauseFor (args.get "secs") s
  | fail => (.ok false, s)
  | envList => listEnv s
  | envSave => saveEnv s
  | _ => (.ok true, s)

/-! ## Commands that steer -/

/-- Drops invocations after the one being run. -/
def skip (count : Nat) (pos : Position) : Position :=
  let next := pos.cursor + 1
  { pos with plan := pos.plan.take next ++ pos.plan.drop (next + count) }

/-- Goes past the last invocation. -/
def stop (pos : Position) : Position :=
  { pos with cursor := pos.plan.length }

/-- What a command that steers does to the plan. -/
def steer (b : Builtin) (args : ArgVals) (pos : Position) : Verdict × Position :=
  match b with
  | flowSkip =>
    match args.counter "count" with
    | .error e => (.error (.ofEnvError e), pos)
    | .ok n => if n < 0 then refuse "skip count must not be negative" pos
      else (.ok true, skip n.toNat pos)
  | flowStop => (.ok true, stop pos)
  | _ => (.ok true, pos)

/-! ## Commands that define -/

variable {α : Type}

/-- The abbreviations in a text, with commas between. -/
def abbrsOf (text : String) : List String :=
  (Text.splitAt ',' text).filterMap Text.trimmed?

/-- Adds a command below the root that runs a command line. The command is there already when the
line is attached to it. -/
def defineLine (name line : String) (abbrs : List String) : Registering (CommandTree α) Unit := do
  let id ← addCommand CommandTree.root name abbrs
  change fun t => t.attach id s!"Runs `{line}`." (.external line)

/-- What a command that defines does to the tree. -/
def define (b : Builtin) (args : ArgVals) (t : CommandTree α) : Verdict × CommandTree α :=
  match b with
  | flowDefine =>
    let name := args.get "name"
    match Text.trimmed? (args.get "script") with
    | none => refuse s!"no command line given for '{name}'" t
    | some line =>
      match (defineLine name line (abbrsOf (args.get "abbr"))).run.run t with
      | (.error e, t) => (.error (.ofRegistrationError e), t)
      | (.ok (), t) => (.ok true, t)
  | _ => (.ok true, t)

end FlowScript.Builtin
