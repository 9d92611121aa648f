import FlowScript.Env.Chain

/-!
# Shared layers

Several envs may share layers: two layers pushed onto one session both see what is later written
to it. A store keeps each layer once, together with the layers that enclose it; a handle is the
number of a layer and stands for the env that starts there.
-/

namespace FlowScript

/-- A layer and the numbers of the layers around it, the nearest first. -/
structure StoredLayer where
  layer : Layer
  enclosing : List Nat

/-- Layers by number, in the order they were made. -/
structure EnvStore where
  cells : List StoredLayer

namespace EnvStore

/-- The store of the layers of one env, whose handle is zero. -/
def ofEnv (e : Env) : EnvStore where
  cells := e.layers.mapIdx fun i l => ⟨l, List.range' (i + 1) (e.layers.length - (i + 1))⟩

/-- The numbers of the layers that a handle sees, its own first. -/
def path (s : EnvStore) (handle : Nat) : List Nat :=
  match s.cells[handle]? with
  | some cell => handle :: cell.enclosing
  | none => []

/-- The env that a handle stands for. -/
def env? (s : EnvStore) (handle : Nat) : Option Env :=
  Env.ofLayers? ((s.path handle).filterMap fun i => (s.cells[i]?).map (·.layer))

/-- Writes layers back to the cells they came from. -/
def writeBack (s : EnvStore) (path : List Nat) (layers : List Layer) : EnvStore where
  cells := (path.zip layers).foldl
    (fun cells (i, l) => cells.modify i fun cell => { cell with layer := l }) s.cells

/-- Puts the env that a handle stands for in place of the one before. The new env has the same
number of layers. -/
def update (s : EnvStore) (handle : Nat) (e : Env) : EnvStore :=
  s.writeBack (s.path handle) e.layers

/-- A new layer inside the env of a handle; the handle of the new layer comes first. -/
def push (s : EnvStore) (handle : Nat) (kind : LayerKind) : Nat × EnvStore :=
  (s.cells.length, { cells := s.cells ++ [⟨.empty kind, s.path handle⟩] })

/-- The handle of the nearest layer of a kind. -/
def nearest? (s : EnvStore) (handle : Nat) (kind : LayerKind) : Option Nat :=
  (s.path handle).find? fun i => (s.cells[i]?).any (·.layer.kind == kind)

/-- The handle of the layer around another. -/
def parent? (s : EnvStore) (handle : Nat) : Option Nat :=
  (s.cells[handle]?).bind (·.enclosing.head?)

end EnvStore

end FlowScript
