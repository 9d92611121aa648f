import FlowScript.Command.Label
import FlowScript.Text.Cut

/-!
# The command tree

Commands form a tree below an unnamed root. A command may have an executable, with parameters of
its own, and sub-commands. The tree is kept as the list of its nodes in the order they were
registered, each with the id of its parent: an id is a position in that list, so it stays valid
whatever is registered later. Children and look-ups are read off the list.

What an executable does is not part of the tree. The type `α` names the actions, and whoever runs a
script says what each of them does; so a tree is plain data and an action may itself change a tree.
-/

namespace FlowScript

/-! ## Nodes -/

/-- The position of a node in its tree. -/
structure NodeId where
  index : Nat
deriving DecidableEq, Repr

/-- What kind of thing an executable is, and so what it may touch: an ordinary action the env, a
power action also the plan, a setup action also the tree. The last kind is a command line for
another program. -/
inductive ExecutableKind (α : Type) where
  | normal (action : α)
  | power (action : α)
  | setup (action : α)
  | external (line : String)
deriving DecidableEq

/-- A declared parameter: its label and the value it has when nothing else is given. -/
structure Param where
  label : Label
  default : String

/-- What a command runs. -/
structure Executable (α : Type) where
  kind : ExecutableKind α
  help : String
  /-- Parameters in the order they were declared. -/
  params : List Param
  /-- Quiet commands are not announced. -/
  quiet : Bool

namespace Executable

variable {α : Type}

/-- Whether the executable may change the plan. -/
def isPower (x : Executable α) : Bool :=
  match x.kind with
  | .power _ => true
  | _ => false

/-- The labels of the parameters. -/
def labels (x : Executable α) : List Label :=
  x.params.map (·.label)

/-- The name of the parameter that a text stands for. -/
def resolve (x : Executable α) (token : String) : Option String :=
  Label.resolve x.labels token

/-- The declared default of a parameter, by its name. -/
def default? (x : Executable α) (name : String) : Option String :=
  (x.params.find? (·.label.name = name)).map (·.default)

/-- Declares a parameter. `owner` is the path of the command. -/
def declare (x : Executable α) (owner name default : String) (abbrs : List String) :
    Except RegistrationError (Executable α) := do
  let label ← Label.accept .argument owner x.labels name abbrs
  .ok { x with params := x.params ++ [⟨label, default⟩] }

end Executable

/-- A command: its label, where it hangs and what it runs. -/
structure Node (α : Type) where
  label : Label
  parent : Option NodeId
  executable : Option (Executable α)

/-- The unnamed root. -/
def Node.root {α : Type} : Node α where
  label := ⟨"", []⟩
  parent := none
  executable := none

/-- The commands in the order they were registered, the root first. -/
structure CommandTree (α : Type) where
  nodes : List (Node α)

namespace CommandTree

variable {α : Type}

/-- The tree of the root alone. -/
def empty : CommandTree α := ⟨[Node.root]⟩

/-- The id of the root. -/
def root : NodeId := ⟨0⟩

/-- The number of nodes, the root included. -/
def size (t : CommandTree α) : Nat :=
  t.nodes.length

/-- The node with an id. An id that this tree never gave out reads as a bare root. -/
def node (t : CommandTree α) (id : NodeId) : Node α :=
  (t.nodes[id.index]?).getD .root

/-- The name of a node. -/
def name (t : CommandTree α) (id : NodeId) : String :=
  (t.node id).label.name

/-- What a node runs. -/
def executable? (t : CommandTree α) (id : NodeId) : Option (Executable α) :=
  (t.node id).executable

/-! ## Look-ups -/

/-- The ids of all nodes in the order they were registered. -/
def ids (t : CommandTree α) : List NodeId :=
  (List.range t.size).map NodeId.mk

/-- The children of a node in the order they were registered. -/
def children (t : CommandTree α) (id : NodeId) : List NodeId :=
  t.ids.filter fun c => (t.node c).parent = some id

/-- The child of a node that a text stands for. -/
def findChild (t : CommandTree α) (id : NodeId) (token : String) : Option NodeId :=
  (t.children id).find? fun c => (t.node c).label.isSpelled token

/-- The node at the end of a list of spellings, each below the one before. -/
def findFrom (t : CommandTree α) (id : NodeId) : List String → Option NodeId
  | [] => some id
  | token :: rest =>
    match t.findChild id token with
    | some c => t.findFrom c rest
    | none => none

/-- The node at the end of a dotted path of spellings; empty segments do not count. -/
def findPath (t : CommandTree α) (path : String) : Option NodeId :=
  t.findFrom root ((Text.splitAt '.' path).filter fun s => !s.isEmpty)

/-- The names from below the root down to the node at a position. -/
def namesTo (t : CommandTree α) (i : Nat) : List String :=
  match (t.node ⟨i⟩).parent with
  | none => []
  | some p => if _h : p.index < i then t.namesTo p.index ++ [t.name ⟨i⟩] else [t.name ⟨i⟩]
termination_by i

/-- The names from below the root down to a node. -/
def pathNames (t : CommandTree α) (id : NodeId) : List String :=
  t.namesTo id.index

/-- The dotted path of a node; that of the root is empty. -/
def displayPath (t : CommandTree α) (id : NodeId) : String :=
  Text.join "." (t.pathNames id)

/-! ## Registration -/

/-- Changes one node. -/
def modify (t : CommandTree α) (id : NodeId) (f : Node α → Node α) : CommandTree α :=
  ⟨t.nodes.modify id.index f⟩

/-- Adds a command below another. -/
def addSub (t : CommandTree α) (parent : NodeId) (name : String) (abbrs : List String) :
    Except RegistrationError (NodeId × CommandTree α) := do
  let siblings := (t.children parent).map fun c => (t.node c).label
  let label ← Label.accept .command (t.displayPath parent) siblings name abbrs
  .ok (⟨t.size⟩, ⟨t.nodes ++ [⟨label, some parent, none⟩]⟩)

/-- Gives a command an executable without parameters; it must have none yet. -/
def attach (t : CommandTree α) (id : NodeId) (help : String) (kind : ExecutableKind α) :
    Except RegistrationError (CommandTree α) :=
  match t.executable? id with
  | some _ => .error (.executableExists (t.displayPath id))
  | none => .ok (t.modify id fun n => { n with executable := some ⟨kind, help, [], false⟩ })

/-- Declares a parameter of a command's executable; a command without one stays as it is. -/
def declare (t : CommandTree α) (id : NodeId) (name default : String) (abbrs : List String) :
    Except RegistrationError (CommandTree α) :=
  match t.executable? id with
  | none => .ok t
  | some x => do
    let x ← x.declare (t.displayPath id) name default abbrs
    .ok (t.modify id fun n => { n with executable := some x })

/-- Makes a command's executable quiet. -/
def setQuiet (t : CommandTree α) (id : NodeId) : CommandTree α :=
  t.modify id fun n => { n with executable := n.executable.map fun x => { x with quiet := true } }

end CommandTree

end FlowScript
