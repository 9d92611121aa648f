import FlowScript.Command.Tree
import FlowScript.Env.Assignments

/-!
# Invocations

One sequence of a script comes down to an invocation: the commands that were named, from the root
down, and with each of them the assignments that followed it. Keys of arguments are written out with
the path of the command they belong to, so `X` with `a=1` assigns `X.a`.
-/

namespace FlowScript

/-- A command that a script names: its name and its place in the tree. -/
structure Match where
  name : String
  node : NodeId
deriving DecidableEq

/-- What a sequence is made of, in the order it is read. -/
inductive PathItem where
  | env (a : Assignments)
  | command (m : Match)
  | separator
deriving DecidableEq

/-- A command with the assignments after it. Only assignments before the first command have no
command. -/
structure Segment where
  env : Option Assignments
  command : Option Match
deriving DecidableEq

/-- What one sequence asks to run. -/
structure Invocation where
  segments : List Segment
deriving DecidableEq

namespace Segment

/-- The segment with nothing in it. -/
def empty : Segment := ⟨none, none⟩

/-- Whether there is nothing in a segment. -/
def isEmpty (s : Segment) : Bool :=
  s.env.isNone && s.command.isNone

/-- Adds assignments after those that are there. -/
def assign (s : Segment) (a : Assignments) : Segment :=
  { s with env := some (match s.env with
    | some before => before.merge a
    | none => a) }

end Segment

namespace Invocation

/-! ## Views -/

/-- The commands that are named, from the root down. -/
def commands (i : Invocation) : List Match :=
  i.segments.filterMap (·.command)

/-- The command that is meant to run: the last one. -/
def leaf? (i : Invocation) : Option Match :=
  i.commands.getLast?

/-- The names of the commands, from the root down. -/
def path (i : Invocation) : List String :=
  i.commands.map (·.name)

/-- The dotted path of the commands. -/
def displayPath (i : Invocation) : String :=
  Text.join "." i.path

/-- The assignments of all segments in order. -/
def fragments (i : Invocation) : List Assignments :=
  i.segments.filterMap (·.env)

/-- All assignments in one, later ones counting. -/
def mergedEnv (i : Invocation) : Assignments :=
  i.fragments.foldl Dict.merge ∅

/-! ## Folding -/

/-- The assignments with the path of a command in front of each argument's key. -/
def qualify (path : String) (a : Assignments) : Assignments :=
  Dict.ofList (a.entries.map fun (key, v) => (if v.isArg then path ++ key else key, v))

/-- The segments that are complete, the one being filled, and the path so far with a dot at its
end. -/
structure Folding where
  finished : List Segment
  current : Segment
  path : String

namespace Folding

/-- Nothing read yet. -/
def start : Folding := ⟨[], .empty, ""⟩

/-- The segments, the one being filled included unless it is empty. -/
def segments (f : Folding) : List Segment :=
  if f.current.isEmpty then f.finished else f.finished ++ [f.current]

/-- Takes in one more item. -/
def step (f : Folding) : PathItem → Folding
  | .separator => f
  | .command m => ⟨f.segments, ⟨none, some m⟩, f.path ++ m.name ++ "."⟩
  | .env a => { f with current := f.current.assign (qualify f.path a) }

end Folding

/-- The invocation that a list of items makes. -/
def ofItems (items : List PathItem) : Invocation :=
  ⟨(items.foldl Folding.step .start).segments⟩

end Invocation

end FlowScript
