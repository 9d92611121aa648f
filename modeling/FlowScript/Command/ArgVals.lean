import FlowScript.Env.Chain

/-!
# Argument values

The values that an executable is called with, one for each name, in the order the names came.
-/

namespace FlowScript

/-- Values under argument names, in the order of the first insertion. -/
structure ArgVals where
  pairs : List (String × String)
deriving DecidableEq

namespace ArgVals

/-- No values. -/
def empty : ArgVals := ⟨[]⟩

/-- Puts a value into the pair of its name, or a new pair at the end. -/
def putPair (name value : String) : List (String × String) → List (String × String)
  | [] => [(name, value)]
  | (n, v) :: rest => if n = name then (n, value) :: rest else (n, v) :: putPair name value rest

/-- Puts a value under a name; a name that has a value keeps its place. -/
def insert (a : ArgVals) (name value : String) : ArgVals :=
  ⟨putPair name value a.pairs⟩

/-- The value under a name. -/
def get? (a : ArgVals) (name : String) : Option String :=
  (a.pairs.find? (·.1 = name)).map (·.2)

/-- The value under a name; a name without a value reads as the empty text. -/
def get (a : ArgVals) (name : String) : String :=
  (a.get? name).getD ""

/-- Whether the value under a name reads as "yes". -/
def isTrue (a : ArgVals) (name : String) : Bool :=
  Text.isTruthy (a.get name)

/-- The counter under a name. -/
def counter (a : ArgVals) (name : String) : Except EnvError Int :=
  Text.counter name (a.get name)

/-- The number of values. -/
def size (a : ArgVals) : Nat :=
  a.pairs.length

end ArgVals

end FlowScript
