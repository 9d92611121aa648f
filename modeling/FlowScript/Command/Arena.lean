import FlowScript.Command.Tree
import FlowScript.Dict

/-!
# The arena of commands

The command tree as it is stored, so that nothing has to be searched for. Beside the id of its parent
a node keeps its children in order, their ids by name, and a table with what each spelling below it
stands for; the parameters of an executable are kept in the same way. So the same things are stored
several times over, and a registration writes them one after the other. It works on the arena itself:
what a refused registration had written by then would stay.
-/

namespace FlowScript

/-- Makes a step on a part of the state. What it has written is kept also if it is refused. -/
def Registering.on {σ τ β : Type} (part : σ → τ) (put : τ → σ → σ) (step : Registering τ β) :
    Registering σ β :=
  ExceptT.mk do
    let s ← get
    let (result, written) := step.run.run (part s)
    set (put written s)
    return result

/-! ## Tables of spellings -/

/-- The spellings of names that stand side by side, each with the name it stands for. A name stands
for itself. -/
abbrev SpellingTable := Dict String

namespace SpellingTable

/-- Looks through abbreviations and refuses the first that is no name, is taken, or occurs a second
time. `seen` holds the abbreviations before, and in the end all of them. -/
def scan (use : LabelUse) (owner name : String) :
    List String → List String → Registering SpellingTable (List String)
  | seen, [] => return seen
  | seen, abbr :: rest => do
    if isName abbr then
      match (← get).get? abbr with
      | some existing => throw (.duplicateAbbr use abbr name existing owner)
      | none =>
        if seen.contains abbr then throw (.duplicateAbbr use abbr name name owner)
        else scan use owner name (abbr :: seen) rest
    else throw (.invalidName use abbr)

/-- Enters a name and its abbreviations. -/
def register (use : LabelUse) (owner name : String) (abbrs : List String) :
    Registering SpellingTable Unit := do
  if isName name then
    match (← get).get? name with
    | some existing =>
      if existing = name then throw (.duplicateName use name owner)
      else throw (.duplicateAbbr use name name existing owner)
    | none =>
      let seen ← scan use owner name [] (abbrs.filter (· ≠ name))
      modify fun table => table.insert name name
      modify fun table => seen.foldl (fun table abbr => table.insert abbr name) table
  else throw (.invalidName use name)

end SpellingTable

/-! ## Executables -/

/-- The parameters of an executable: their names in the order they were declared, their defaults, and
what each spelling stands for. -/
structure ParamTable where
  names : List String
  defaults : Dict String
  index : SpellingTable

namespace ParamTable

/-- No parameters. -/
def empty : ParamTable := ⟨[], ∅, ∅⟩

/-- The name of the parameter that a text stands for. -/
def resolve (p : ParamTable) (token : String) : Option String :=
  p.index.get? token

/-- The declared default of a parameter, by its name. -/
def default? (p : ParamTable) (name : String) : Option String :=
  p.defaults.get? name

/-- Adds a parameter. -/
def add (owner name default : String) (abbrs : List String) : Registering ParamTable Unit := do
  Registering.on (·.index) (fun table p => { p with index := table })
    (SpellingTable.register .argument owner name abbrs)
  modify fun p =>
    { p with names := p.names ++ [name], defaults := p.defaults.insert name default }

end ParamTable

/-- What a command runs, with the path of the command as it was when the executable was attached. -/
structure StoredExecutable (α : Type) where
  kind : ExecutableKind α
  help : String
  params : ParamTable
  quiet : Bool
  path : String

/-- Declares a parameter. -/
def StoredExecutable.declare {α : Type} (name default : String) (abbrs : List String) :
    Registering (StoredExecutable α) Unit := do
  let x ← get
  Registering.on (·.params) (fun p x => { x with params := p })
    (ParamTable.add x.path name default abbrs)

/-! ## Nodes -/

/-- A command with all that look-ups below it need. -/
structure Cell (α : Type) where
  name : String
  parent : Option NodeId
  /-- The abbreviations, the name itself left out. -/
  abbrs : List String
  /-- The children in the order they were registered. -/
  children : List NodeId
  /-- The ids of the children by their names. -/
  childIds : Dict NodeId
  /-- What each spelling stands for below the node. -/
  subAbbrs : SpellingTable
  executable : Option (StoredExecutable α)

/-- A command without children that runs nothing. -/
def Cell.new {α : Type} (name : String) (parent : Option NodeId) (abbrs : List String) : Cell α :=
  ⟨name, parent, abbrs.filter (· ≠ name), [], ∅, ∅, none⟩

/-- The cells of all commands in the order they were registered, that of the root first. -/
structure Arena (α : Type) where
  cells : List (Cell α)

namespace Arena

variable {α : Type}

/-- The arena with the root alone. -/
def empty : Arena α := ⟨[.new "" none []]⟩

/-- The number of cells, that of the root included. -/
def size (a : Arena α) : Nat :=
  a.cells.length

/-- The cell with an id. An id that this arena never gave out reads as a bare root. -/
def cell (a : Arena α) (id : NodeId) : Cell α :=
  (a.cells[id.index]?).getD (.new "" none [])

/-! ## Look-ups -/

/-- The child of a node that a text stands for. -/
def findChild (a : Arena α) (id : NodeId) (token : String) : Option NodeId := do
  let name ← (a.cell id).subAbbrs.get? token
  (a.cell id).childIds.get? name

/-- The node at the end of a dotted path of spellings; empty segments do not count. -/
def findPath (a : Arena α) (path : String) : Option NodeId :=
  ((Text.splitAt '.' path).filter fun s => !s.isEmpty).foldlM a.findChild CommandTree.root

/-- The names from the node at a position up to below the root. -/
def namesUp (a : Arena α) (i : Nat) : List String :=
  match (a.cell ⟨i⟩).parent with
  | none => []
  | some p => (a.cell ⟨i⟩).name :: if _h : p.index < i then a.namesUp p.index else []
termination_by i

/-- The names from below the root down to a node. -/
def pathNames (a : Arena α) (id : NodeId) : List String :=
  (a.namesUp id.index).reverse

/-- The dotted path of a node; that of the root is empty. -/
def displayPath (a : Arena α) (id : NodeId) : String :=
  Text.join "." (a.pathNames id)

/-! ## Registration -/

/-- Changes one cell. -/
def modifyCell (a : Arena α) (id : NodeId) (f : Cell α → Cell α) : Arena α :=
  ⟨a.cells.modify id.index f⟩

/-- Adds a command below another: first its spellings, then its id, then its own cell. -/
def addSub (parent : NodeId) (name : String) (abbrs : List String) :
    Registering (Arena α) NodeId := do
  let a ← get
  let id : NodeId := ⟨a.size⟩
  Registering.on (fun a => (a.cell parent).subAbbrs)
    (fun table a => a.modifyCell parent fun c => { c with subAbbrs := table })
    (SpellingTable.register .command (a.displayPath parent) name abbrs)
  modify fun a => a.modifyCell parent fun c =>
    { c with children := c.children ++ [id], childIds := c.childIds.insert name id }
  modify fun a => ⟨a.cells ++ [.new name (some parent) abbrs]⟩
  return id

/-- Gives a command an executable without parameters; it must have none yet. -/
def attach (id : NodeId) (help : String) (kind : ExecutableKind α) :
    Registering (Arena α) Unit := do
  let a ← get
  let path := a.displayPath id
  match (a.cell id).executable with
  | some _ => throw (.executableExists path)
  | none =>
    modify fun a => a.modifyCell id fun c =>
      { c with executable := some ⟨kind, help, .empty, false, path⟩ }

/-- Declares a parameter of a command's executable; a command without one stays as it is. -/
def declare (id : NodeId) (name default : String) (abbrs : List String) :
    Registering (Arena α) Unit := do
  match ((← get).cell id).executable with
  | none => return ()
  | some x =>
    Registering.on (fun _ => x)
      (fun x a => a.modifyCell id fun c => { c with executable := some x })
      (StoredExecutable.declare name default abbrs)

/-- Makes a command's executable quiet. -/
def setQuiet (id : NodeId) : Registering (Arena α) Unit :=
  modify fun a => a.modifyCell id fun c =>
    { c with executable := c.executable.map fun x => { x with quiet := true } }

end Arena

end FlowScript
