import FlowScript.Run.Event
import FlowScript.Text.ShellWords

/-!
# Running scripts

A machine holds the command tree, the session and the world outside; scripts run against it. What
actions, other programs and observers do is given by handlers. An ordinary action sees its
arguments, the env of the call and the world; only power actions see the plan and only setup
actions the tree.

A plan is walked from its first invocation. Power actions may change it and move in it, so a walk
need not end; it is therefore given a limit on the number of its steps, and running into the limit
is an error of its own (`FlowError.unfinished`). The first executable that does not succeed ends the
run.
-/

namespace FlowScript

/-- Why a script did not run to its end. -/
inductive FlowError where
  | parse (e : ParseError)
  | env (e : EnvError)
  | commandFailed (path : String)
  | commandError (path : String) (cause : Cause)
  | tokenize (text : String)
  /-- The depth of nested scripts or the cursor of a plan left its range. -/
  | overflow
  /-- The limit on steps was reached. -/
  | unfinished
deriving DecidableEq

/-- The text shown for an error. -/
def FlowError.message : FlowError → String
  | parse e => e.message
  | env e => e.message
  | commandFailed path => s!"Command '{path}' failed."
  | commandError path cause => s!"Command '{path}' failed: " ++ cause.message
  | tokenize text => "Could not split script text into tokens: " ++ text
  | overflow => "attempt to add with overflow"
  | unfinished => "The step limit was reached."

/-- The meaning of actions, command lines and events over a world `σ`. Each takes what it may
change and gives it back. -/
structure Handlers (α σ : Type) where
  normal : α → ArgVals → Env × σ → Verdict × Env × σ
  power : α → ArgVals → Env × Position × σ → Verdict × Env × Position × σ
  setup : α → ArgVals → Env × CommandTree α × σ → Verdict × Env × CommandTree α × σ
  external : String → ArgVals → Env × σ → Verdict × Env × σ
  notify : Event → σ → σ

/-- What scripts run against. -/
structure Machine (α σ : Type) where
  tree : CommandTree α
  /-- The session layer and the layers around it. -/
  session : Env
  /-- Layers inside the session layer; a run does not touch them. -/
  inner : List Layer
  world : σ

namespace Machine

variable {α σ : Type}

/-- The machine over an env. The nearest session layer is the session; where there is none, the
env's own layer is. -/
def ofEnv (tree : CommandTree α) (env : Env) (world : σ) : Machine α σ :=
  match Env.splitAtKind? .session env.layers with
  | some (inner, session) => ⟨tree, session, inner, world⟩
  | none => ⟨tree, env, [], world⟩

/-- The env with all its layers. -/
def env (m : Machine α σ) : Env :=
  match m.inner with
  | [] => m.session
  | own :: outer => ⟨own, outer ++ m.session.layers⟩

/-- Puts another env with the same kinds of layers in place of the one before. -/
def setEnv (m : Machine α σ) (env : Env) : Machine α σ :=
  ofEnv m.tree env m.world

end Machine

/-- How scripts are run. -/
structure Engine (α σ : Type) where
  handlers : Handlers α σ
  /-- Text of a script that runs before every other. -/
  bootstrap : String
  /-- The greatest number of steps in one plan. -/
  stepLimit : Nat

namespace Engine

variable {α σ : Type}

/-- What a run comes to: an error if it did not reach its end, and the machine afterwards. -/
abbrev Result (α σ : Type) := Except FlowError Unit × Machine α σ

/-- Goes on with another run if one ended well. -/
def andThen (r : Result α σ) (next : Machine α σ → Result α σ) : Result α σ :=
  match r with
  | (.ok (), m) => next m
  | (.error e, m) => (.error e, m)

/-! ## Calling one executable -/

/-- The key under which the value of a parameter is looked up. -/
def argKey (path name : String) : String := path ++ "." ++ name

/-- The values of an executable's parameters: what the env holds under the path of the command and
the name of the parameter, or else the default. -/
def resolveArgs (x : Executable α) (path : String) (env : Env) : ArgVals :=
  x.params.foldl
    (fun vals p => vals.insert p.label.name ((env.get? (argKey path p.label.name)).getD p.default))
    .empty

/-- The env of a call: a new layer inside the session, with the assignments of the invocation. -/
def callEnv (session : Env) (i : Invocation) : Env :=
  i.fragments.foldl (fun e a => a.writeTo e) (session.push .command)

/-- Calls an executable with what its kind may touch. -/
def call (e : Engine α σ) (x : Executable α) (args : ArgVals) (env : Env) (tree : CommandTree α)
    (pos : Position) (world : σ) : Verdict × Env × CommandTree α × Position × σ :=
  match x.kind with
  | .normal a =>
    let (v, env, world) := e.handlers.normal a args (env, world)
    (v, env, tree, pos, world)
  | .power a =>
    let (v, env, pos, world) := e.handlers.power a args (env, pos, world)
    (v, env, tree, pos, world)
  | .setup a =>
    let (v, env, tree, world) := e.handlers.setup a args (env, tree, world)
    (v, env, tree, pos, world)
  | .external line =>
    let (v, env, world) := e.handlers.external line args (env, world)
    (v, env, tree, pos, world)

/-- Runs one invocation: an event, the call, and an event with its outcome. -/
def dispatch (e : Engine α σ) (x : Executable α) (i : Invocation) (pos : Position)
    (m : Machine α σ) : Verdict × Position × Machine α σ :=
  let path := i.displayPath
  let env := callEnv m.session i
  let args := resolveArgs x path env
  let world := e.handlers.notify ⟨.before, path, x.quiet, env, pos⟩ m.world
  -- the arguments were fixed before the first event; what the call does to the env comes too late
  let (verdict, env, tree, pos, world) := e.call x args env m.tree pos world
  let world := e.handlers.notify ⟨.after verdict.succeeded, path, x.quiet, env, pos⟩ world
  (verdict, pos, { m with tree := tree, session := env.parent?.getD m.session, world := world })

/-! ## Walking a plan -/

/-- The executable that an invocation is meant to run. -/
def executable? (tree : CommandTree α) (i : Invocation) : Option (Executable α) :=
  i.leaf?.bind fun leaf => tree.executable? leaf.node

/-- Walks a plan in at most `fuel` steps. Invocations without an executable are passed over. -/
def walk (e : Engine α σ) : (fuel : Nat) → Position → Machine α σ → Result α σ
  | 0, _, m => (.error .unfinished, m)
  | fuel + 1, pos, m =>
    match pos.plan[pos.cursor]? with
    | none => (.ok (), m)
    | some i =>
      match executable? m.tree i with
      | none => e.walk fuel { pos with cursor := pos.cursor + 1 } m
      | some x =>
        match e.dispatch x i pos m with
        | (.ok true, pos, m) =>
          match pos.next? with
          | some pos => e.walk fuel pos m
          | none => (.error .overflow, m)
        | (.ok false, _, m) => (.error (.commandFailed i.displayPath), m)
        | (.error cause, _, m) => (.error (.commandError i.displayPath cause), m)

/-- Writes the values for the whole script to the session and walks the invocations that have an
executable. -/
def runFlow (e : Engine α σ) (flow : Flow) (m : Machine α σ) : Result α σ :=
  let m := { m with session := (flow.globalEnv.getD ∅).writeTo m.session }
  -- invocations without an executable are left out, and their assignments with them
  let plan := flow.commands.filter fun i => (executable? m.tree i).isSome
  e.walk e.stepLimit ⟨plan, 0⟩ m

/-! ## Scripts -/

/-- Reads a script against the tree as it is now. -/
def parse (m : Machine α σ) (tokens : List String) : Except ParseError Flow :=
  m.tree.readFlow .standard tokens

/-- Reads a script and runs it. -/
def runTokens (e : Engine α σ) (tokens : List String) (m : Machine α σ) : Result α σ :=
  match parse m tokens with
  | .error err => (.error (.parse err), m)
  | .ok flow => e.runFlow flow m

/-- Runs a script that is given as one text; a blank text is no script. -/
def runText (e : Engine α σ) (text : String) (m : Machine α σ) : Result α σ :=
  if Text.isBlankText text then (.ok (), m)
  else match Text.ShellWords.split? text with
    | none => (.error (.tokenize text), m)
    | some tokens => e.runTokens tokens m

/-! ## Nested depth -/

/-- The key of the text of another script to run before the user's. -/
def bootstrapKey : String := "bootstrap"

/-- The key that counts how many scripts are running inside each other. -/
def depthKey : String := "sys.stack-depth"

/-- Adds to the depth in the session's own layer; what encloses the session does not count. -/
def adjustDepth (session : Env) (delta : Int) : Except FlowError Env :=
  let depth := match session.own? depthKey with
    | some s => Text.counter depthKey s
    | none => .ok 0
  match depth with
  | .error err => .error (.env err)
  | .ok n =>
    if Text.Integer.fits (n + delta) then .ok (session.setCounter depthKey (n + delta))
    else .error .overflow

/-- Lowers the depth again after a run. A depth that is no counter any more is left as it is; one
that cannot be lowered counts as the outcome. -/
def restoreDepth (r : Result α σ) : Result α σ :=
  match adjustDepth r.2.session (-1) with
  | .ok session => (r.1, { r.2 with session := session })
  | .error .overflow => (.error .overflow, r.2)
  | .error _ => r

/-- Runs the user's script one level deeper. -/
def runNested (e : Engine α σ) (script : List String) (m : Machine α σ) : Result α σ :=
  match adjustDepth m.session 1 with
  | .error err => (.error err, m)
  | .ok session => restoreDepth (e.runTokens script { m with session := session })

/-- Runs the script that the session names for the start. -/
def runSessionBootstrap (e : Engine α σ) (m : Machine α σ) : Result α σ :=
  e.runText (m.session.text bootstrapKey) m

/-- Writes extra values to the session and runs the fixed start script, the session's start script
and the user's script. -/
def execute (e : Engine α σ) (script : List String) (extra : Assignments) (m : Machine α σ) :
    Result α σ :=
  let m := { m with session := extra.writeTo m.session }
  andThen (andThen (e.runText e.bootstrap m) e.runSessionBootstrap) (e.runNested script)

end Engine

end FlowScript
