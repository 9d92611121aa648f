import FlowScript.Command.Tree

/-!
# The builtin commands

The commands that are there from the start: where they hang in the tree, how they are spelled, and
which parameters they take. Registering them stops at the first that the tree refuses; what came
before it stays.
-/

namespace FlowScript

/-- A builtin command. -/
inductive Builtin where
  | dummy
  | echo
  | sleep
  | fail
  | envList
  | envSave
  | flowSkip
  | flowStop
  | flowDefine
deriving DecidableEq, Repr

namespace Builtin

/-- A parameter of a builtin command. -/
structure ParamSpec where
  name : String
  default : String
  abbrs : List String

/-- How a builtin command is registered. -/
structure Spec where
  /-- The path of the namespace that holds the command; empty for the root. -/
  home : String
  name : String
  abbrs : List String
  help : String
  params : List ParamSpec
  quiet : Bool

/-- The dotted path of the command. -/
def Spec.path (s : Spec) : String :=
  if s.home.isEmpty then s.name else s.home ++ "." ++ s.name

/-- The namespaces that hold builtin commands, with their abbreviations. -/
def namespaces : List (String × List String) :=
  [("env", ["e"]), ("flow", ["f"])]

/-- All builtin commands in the order they are registered. -/
def all : List Builtin :=
  [dummy, echo, sleep, fail, envList, envSave, flowSkip, flowStop, flowDefine]

/-- How each builtin command is registered. -/
def spec : Builtin → Spec
  | dummy => ⟨"", "dummy", ["dmy"], "Do nothing and succeed.", [], true⟩
  | echo => ⟨"", "echo", ["say"], "Print a message.", [⟨"message", "", ["msg", "m"]⟩], true⟩
  | sleep => ⟨"", "sleep", ["slp"], "Block for a number of seconds.", [⟨"secs", "1", ["s"]⟩], false⟩
  | fail => ⟨"", "fail", [], "Always fail.", [], false⟩
  | envList => ⟨"env", "ls", ["list"], "Print every visible env key.", [], true⟩
  | envSave =>
    ⟨"env", "save", ["persist"], "Persist the session env so later runs see it.", [], false⟩
  | flowSkip =>
    ⟨"flow", "skip", ["sk"], "Drop the next commands of the flow.", [⟨"count", "1", ["c"]⟩], true⟩
  | flowStop =>
    ⟨"flow", "stop", ["halt"], "End the flow successfully, dropping everything after it.", [], true⟩
  | flowDefine =>
    ⟨"flow", "def", ["define"], "Register a top-level command running an external command line.",
      [⟨"name", "", ["n"]⟩, ⟨"script", "", ["s"]⟩, ⟨"abbr", "", ["a"]⟩], true⟩

/-- What a builtin command may touch. `inject` makes it an action of the tree. -/
def kind {α : Type} (inject : Builtin → α) (b : Builtin) : ExecutableKind α :=
  match b with
  | flowSkip | flowStop => .power (inject b)
  | flowDefine => .setup (inject b)
  | _ => .normal (inject b)

/-! ## Registration -/

variable {α : Type}

/-- Adds a command to the tree. -/
def addCommand (parent : NodeId) (name : String) (abbrs : List String) :
    Registering (CommandTree α) NodeId := do
  match (← get).addSub parent name abbrs with
  | .ok (id, t) => set t; return id
  | .error e => throw e

/-- Makes a step that gives back a tree. -/
def change (f : CommandTree α → Except RegistrationError (CommandTree α)) :
    Registering (CommandTree α) Unit := do
  match f (← get) with
  | .ok t => set t
  | .error e => throw e

/-- The node of a namespace. -/
def findHome (s : Spec) : Registering (CommandTree α) NodeId := do
  match (← get).findPath s.home with
  | some id => return id
  | none => throw (.invalidName .command s.path)

/-- Registers one builtin command. -/
def registerOne (inject : Builtin → α) (b : Builtin) : Registering (CommandTree α) Unit := do
  let s := b.spec
  let id ← addCommand (← findHome s) s.name s.abbrs
  change fun t => t.attach id s.help (b.kind inject)
  s.params.forM fun p => change fun t => t.declare id p.name p.default p.abbrs
  if s.quiet then change fun t => .ok (t.setQuiet id)

/-- Registers the namespaces and every builtin command. -/
def registerAll (inject : Builtin → α) : Registering (CommandTree α) Unit := do
  namespaces.forM fun (name, abbrs) => discard (addCommand CommandTree.root name abbrs)
  all.forM (registerOne inject)

/-- Registers everything on a tree: the tree afterwards, and what it refused. -/
def register (inject : Builtin → α) (t : CommandTree α) :
    Except RegistrationError Unit × CommandTree α :=
  (registerAll inject).run.run t

end Builtin

end FlowScript
