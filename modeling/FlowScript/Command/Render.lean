import FlowScript.Command.Tree

/-!
# Drawing the command tree

The tree is drawn one command a line, parents before children, each command below the root with a
branch in front. The lines of a branch go on past the commands that have a later sibling.
-/

namespace FlowScript

variable {α : Type}

/-- What a kind of executable is marked with. -/
def ExecutableKind.marker : ExecutableKind α → String
  | normal _ => ""
  | power _ => " (power)"
  | setup _ => " (setup)"
  | external _ => " (external)"

/-- The marker, the parameters with their defaults, and the help text of an executable. -/
def Executable.describe (x : Executable α) : String :=
  let params := x.params.map fun p => p.label.name ++ "=" ++ p.default
  let params := if params.isEmpty then "" else " (" ++ Text.join ", " params ++ ")"
  let help := if x.help.isEmpty then "" else " - " ++ x.help
  x.kind.marker ++ params ++ help

/-- What is written of a node itself. -/
def Node.describe (n : Node α) : String :=
  let abbrs := n.label.abbrs
  let abbrs := if abbrs.isEmpty then "" else " [" ++ Text.join "|" abbrs ++ "]"
  let details := match n.executable with
    | some x => x.describe
    | none => ""
  n.label.name ++ abbrs ++ details

namespace CommandTree

/-- A node in the drawing: whether each of its ancestors below the root, and last itself, has a
later sibling. -/
structure Branch where
  continues : List Bool
  id : NodeId
deriving DecidableEq

/-- Pairs every element with whether another one follows. -/
def markLater {β : Type} : List β → List (β × Bool)
  | [] => []
  | b :: rest => (b, !rest.isEmpty) :: markLater rest

/-- The nodes below one, parents before children. No path is longer than the tree is large, which
is what `depth` is for. -/
def branchesBelow (t : CommandTree α) : (depth : Nat) → NodeId → List Bool → List Branch
  | 0, _, _ => []
  | depth + 1, id, above =>
    (markLater (t.children id)).flatMap fun (c, later) =>
      ⟨above ++ [later], c⟩ :: t.branchesBelow depth c (above ++ [later])

/-- All nodes below the root, parents before children. -/
def branches (t : CommandTree α) : List Branch :=
  t.branchesBelow t.size root []

/-- The lines in front of a node: one group for each ancestor, then its own. -/
def Branch.lines : List Bool → String
  | [] => ""
  | [later] => if later then "├─" else "└─"
  | later :: rest => (if later then "│  " else "   ") ++ Branch.lines rest

/-- The line of one node. -/
def renderBranch (t : CommandTree α) (b : Branch) : String :=
  Branch.lines b.continues ++ (t.node b.id).describe ++ "\n"

/-- The drawing of the tree. -/
def render (t : CommandTree α) : String :=
  String.join (t.branches.map t.renderBranch)

/-- The drawing with its heading, as it is shown to a user. -/
def overview (t : CommandTree α) : String :=
  if t.size ≤ 1 then "\nNo commands registered.\n"
  else "\nRegistered Commands:\n" ++ t.render

end CommandTree

end FlowScript
