import FlowScript.Command.Tree

/-!
# Expanding abbreviated paths

A key such as `d.p.r` may be an abbreviated path: of a command, or of a parameter of a command's
executable. Expansion resolves one segment after the other. Where a command has a sub-command and a
parameter of one spelling, the sub-command is meant.
-/

namespace FlowScript

/-- Where the next segment of a path is looked up: among what a command offers, or below a
parameter, where there is nothing. -/
inductive Level where
  | command (id : NodeId)
  | argument
deriving DecidableEq

namespace CommandTree

variable {α : Type}

/-- The name that a text stands for at a level. -/
def resolveAt (t : CommandTree α) (level : Level) (token : String) : Option String :=
  match level with
  | .argument => none
  | .command id =>
    match t.findChild id token with
    | some c => some (t.name c)
    | none => (t.executable? id).bind (·.resolve token)

/-- Whether a parameter can be reached by one of its spellings at the level of its command. -/
def isReachable (t : CommandTree α) (id : NodeId) (p : Param) : Bool :=
  p.label.spellings.any fun s => t.resolveAt (.command id) s = some p.label.name

/-- The level below a name. -/
def below? (t : CommandTree α) (level : Level) (name : String) : Option Level :=
  match level with
  | .argument => none
  | .command id =>
    match (t.children id).find? fun c => t.name c = name with
    | some c => some (.command c)
    | none =>
      match (t.executable? id).bind fun x => x.params.find? fun p =>
        p.label.name = name && t.isReachable id p with
      | some _ => some .argument
      | none => none

/-- Whether nothing resolves at a level. -/
def isEmptyAt (t : CommandTree α) : Level → Bool
  | .argument => true
  | .command id => (t.children id).isEmpty && (t.executable? id).all (·.params.isEmpty)

/-- The level at the end of a list of names. -/
def levelAt? (t : CommandTree α) (level : Level) : List String → Option Level
  | [] => some level
  | name :: rest => (t.below? level name).bind fun l => t.levelAt? l rest

/-- The names that a list of segments stands for, the first one being looked up at a level. -/
def expandFrom (t : CommandTree α) (level : Option Level) : List String → Option (List String)
  | [] => some []
  | token :: rest => do
    let level ← level
    let name ← t.resolveAt level token
    let names ← t.expandFrom (t.below? level name) rest
    some (name :: names)

/-- The path of names that an abbreviated path stands for, and whether every segment resolved. If
one did not, the path comes back as it was. -/
def expand (t : CommandTree α) (path sep : String) : String × Bool :=
  match t.expandFrom (some (.command root)) (Text.splitOn sep path) with
  | some names => (Text.join sep names, true)
  | none => (path, false)

end CommandTree

end FlowScript
