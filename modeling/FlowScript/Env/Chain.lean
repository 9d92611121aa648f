import FlowScript.Env.Layer
import FlowScript.Text.Integer

/-!
# The env chain

An env is a layer inside the layers that enclose it. Reading a key goes outwards and takes the
first layer that holds it; writing changes the env's own layer. Three operations reach further
out: erasing everywhere, erasing or setting in the nearest layer of a kind, and adding to a
counter, which changes the layer that the counter was read from.
-/

namespace FlowScript

/-- Why a counter could not be read or changed. -/
inductive EnvError where
  | notAnInteger (key value : String)
  | overflow (key : String) (delta : Int)
deriving DecidableEq

/-- The text shown for an error. -/
def EnvError.message : EnvError → String
  | notAnInteger key value => s!"Env key '{key}' holds '{value}', which is not an integer."
  | overflow key delta =>
    "Adding " ++ Text.Integer.write delta ++ s!" to env key '{key}' overflows."

namespace Text

/-- Whether a text is one of the words for "yes", in either case and with blanks around it. -/
def isTruthy (s : String) : Bool :=
  ["true", "1", "on", "y"].contains (String.ofList ((trimChars s.toList).map Char.toLower))

/-- The counter that a text writes; `key` is where the text was found. -/
def counter (key s : String) : Except EnvError Int :=
  match Integer.read? s with
  | some n => .ok n
  | none => .error (.notAnInteger key s)

end Text

/-- A layer inside the layers that enclose it, the nearest of them first. -/
structure Env where
  own : Layer
  outer : List Layer
deriving DecidableEq

namespace Env

/-! ## The chain -/

/-- All layers, the env's own first and the root last. -/
def layers (e : Env) : List Layer :=
  e.own :: e.outer

/-- The env of a chain of layers, the nearest first. -/
def ofLayers? : List Layer → Option Env
  | [] => none
  | own :: outer => some ⟨own, outer⟩

/-- A single layer, enclosed by none. -/
def root (kind : LayerKind) : Env where
  own := .empty kind
  outer := []

/-- A new layer inside this env. -/
def push (e : Env) (kind : LayerKind) : Env where
  own := .empty kind
  outer := e.layers

/-- The env around this one. -/
def parent? (e : Env) : Option Env :=
  ofLayers? e.outer

/-- The chain that a run starts with: a session that sees saved values and defaults. -/
def newSession : Env :=
  ((root .default).push .persisted).push .session

/-- The layers nearer than the nearest layer of a kind, and the env of that layer. -/
def splitAtKind? (kind : LayerKind) : List Layer → Option (List Layer × Env)
  | [] => none
  | l :: rest =>
    if l.kind = kind then some ([], ⟨l, rest⟩)
    else (splitAtKind? kind rest).map fun (inner, e) => (l :: inner, e)

/-- The env of the nearest layer of a kind, this env's own layer included. -/
def nearest? (e : Env) (kind : LayerKind) : Option Env :=
  (splitAtKind? kind e.layers).map (·.2)

/-! ## Reading -/

/-- The value that is seen under a key. -/
def value? (e : Env) (key : String) : Option Value :=
  e.layers.findSome? (·.get? key)

/-- The text that is seen under a key. -/
def get? (e : Env) (key : String) : Option String :=
  (e.value? key).map (·.raw)

/-- The text that is seen under a key; an absent key reads as the empty text. -/
def text (e : Env) (key : String) : String :=
  (e.get? key).getD ""

/-- The text that the own layer holds under a key. -/
def own? (e : Env) (key : String) : Option String :=
  (e.own.get? key).map (·.raw)

/-- Whether any layer holds a key. -/
def has (e : Env) (key : String) : Bool :=
  e.layers.any (·.holds key)

/-- Whether a key reads as "yes"; an absent one does not. -/
def isTrue (e : Env) (key : String) : Bool :=
  (e.get? key).any Text.isTruthy

/-- The counter under a key; an absent one is zero. -/
def counter (e : Env) (key : String) : Except EnvError Int :=
  match e.get? key with
  | some s => Text.counter key s
  | none => .ok 0

/-- Every key that is seen, with the text that is seen under it. -/
def flatten (e : Env) : Dict String :=
  e.layers.foldr (fun l seen => seen.merge l.texts) ∅

/-! ## Writing -/

/-- Puts a value into the own layer. -/
def setValue (e : Env) (key : String) (v : Value) : Env :=
  { e with own := e.own.set key v }

/-- Puts a text that is no argument into the own layer. -/
def set (e : Env) (key raw : String) : Env :=
  e.setValue key ⟨raw, false⟩

/-- Puts a truth value into the own layer. -/
def setBool (e : Env) (key : String) (b : Bool) : Env :=
  e.set key (if b then "true" else "false")

/-- Puts a counter into the own layer. -/
def setCounter (e : Env) (key : String) (n : Int) : Env :=
  e.set key (Text.Integer.write n)

/-- Changes the first layer that satisfies a test. -/
def modifyFirst (p : Layer → Bool) (f : Layer → Layer) : List Layer → List Layer
  | [] => []
  | l :: rest => if p l then f l :: rest else l :: modifyFirst p f rest

/-- Changes the nearest layer that satisfies a test, if there is one. -/
def modifyNearest (e : Env) (p : Layer → Bool) (f : Layer → Layer) : Env :=
  if p e.own then { e with own := f e.own }
  else { e with outer := modifyFirst p f e.outer }

/-- Puts a text into the nearest layer of a kind, if there is one. -/
def setIn (e : Env) (kind : LayerKind) (key raw : String) : Env :=
  e.modifyNearest (·.kind == kind) (·.set key ⟨raw, false⟩)

/-- Removes a key from the nearest layer of a kind, if there is one. -/
def eraseIn (e : Env) (kind : LayerKind) (key : String) : Env :=
  e.modifyNearest (·.kind == kind) (·.erase key)

/-- Removes a key from every layer. -/
def erase (e : Env) (key : String) : Env where
  own := e.own.erase key
  outer := e.outer.map (·.erase key)

/-- Adds to the counter under a key. The sum is written to the layer that holds the key, or to
the own layer if none does. -/
def addToCounter (e : Env) (key : String) (delta : Int) : Except EnvError (Int × Env) := do
  let sum := (← e.counter key) + delta
  if Text.Integer.fits sum then
    if e.has key then
      .ok (sum, e.modifyNearest (·.holds key) (·.set key ⟨Text.Integer.write sum, false⟩))
    else
      .ok (sum, e.setCounter key sum)
  else
    .error (.overflow key delta)

/-- Adds to the counter under a key: what comes of it, and the env to go on with, which is the one
before if nothing can be added. -/
def tally (e : Env) (key : String) (delta : Int) : Except EnvError Int × Env :=
  match e.addToCounter key delta with
  | .ok (sum, after) => (.ok sum, after)
  | .error err => (.error err, e)

end Env

end FlowScript
