import FlowScript.Dict
import FlowScript.Text.Blank

/-!
# Env layers

A layer is one scope of the env: a kind, which says how long its values live, and the values
themselves. A value is text with a mark that tells arguments from other keys.
-/

namespace FlowScript

/-! ## Kinds -/

/-- How long the values of a layer live: built in, saved between runs, one session, one flow or
one command. -/
inductive LayerKind where
  | default
  | persisted
  | session
  | global
  | command
deriving DecidableEq, Repr

namespace LayerKind

/-- The word for a kind. -/
def word : LayerKind → String
  | default => "default"
  | persisted => "persisted"
  | session => "session"
  | global => "global"
  | command => "cmd"

/-- A word that names no kind. -/
structure Unknown where
  word : String
deriving DecidableEq

/-- The text shown for an unknown word. -/
def Unknown.message (e : Unknown) : String :=
  s!"Unknown env layer '{e.word}'."

/-- All kinds, from the longest lived to the shortest lived. -/
def all : List LayerKind :=
  [default, persisted, session, global, command]

/-- The kind that a text names, blanks around it left aside. -/
def ofText (s : String) : Except Unknown LayerKind :=
  let w := Text.trim s
  match all.find? (·.word == w) with
  | some kind => .ok kind
  | none => .error ⟨w⟩

end LayerKind

/-! ## Values and layers -/

/-- A stored value. `isArg` marks values that were read as arguments of a command. -/
structure Value where
  raw : String
  isArg : Bool
deriving DecidableEq, Repr

/-- One scope of the env. -/
structure Layer where
  kind : LayerKind
  values : Dict Value
deriving DecidableEq

namespace Layer

/-- The layer of a kind without values. -/
def empty (kind : LayerKind) : Layer where
  kind := kind
  values := ∅

/-- The value that the layer itself holds under a key. -/
def get? (l : Layer) (key : String) : Option Value :=
  l.values.get? key

/-- Whether the layer itself holds a key. -/
def holds (l : Layer) (key : String) : Bool :=
  l.values.contains key

/-- Puts a value into the layer. -/
def set (l : Layer) (key : String) (v : Value) : Layer :=
  { l with values := l.values.insert key v }

/-- Removes a key from the layer. -/
def erase (l : Layer) (key : String) : Layer :=
  { l with values := l.values.erase key }

/-- The texts that the layer holds. -/
def texts (l : Layer) : Dict String :=
  l.values.map Value.raw

end Layer

end FlowScript
