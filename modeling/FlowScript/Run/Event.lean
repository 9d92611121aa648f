import FlowScript.Command.ArgVals
import FlowScript.Script.Flow

/-!
# Plans, verdicts and events

What passes between a run and the executables it calls: the plan and the place in it, the verdict of
an executable, and the events that tell an observer what is being called.
-/

namespace FlowScript

/-- The invocations that a run goes through. -/
abbrev Plan := List Invocation

/-- A plan and the position of the invocation being run. -/
structure Position where
  plan : Plan
  cursor : Nat
deriving DecidableEq

namespace Position

/-- The greatest cursor. -/
def maxCursor : Nat := 18446744073709551615

/-- The position after this one. From far behind the plan there is none if the cursor is as great as
it can be. -/
def next? (pos : Position) : Option Position :=
  if pos.plan.length < pos.cursor && pos.cursor = maxCursor then none
  else some { pos with cursor := pos.cursor + 1 }

end Position

/-- Why an executable gave up: a text, and the texts of what it came from. -/
structure Cause where
  texts : List String
deriving DecidableEq

namespace Cause

/-- A cause that came from nothing else. -/
def ofText (text : String) : Cause := ⟨[text]⟩

/-- The text shown for a cause. -/
def message (c : Cause) : String :=
  Text.join ": " c.texts

/-- An env error as a cause. -/
def ofEnvError (e : EnvError) : Cause := ofText e.message

/-- A refused registration as a cause. -/
def ofRegistrationError (e : RegistrationError) : Cause := ofText e.message

end Cause

/-- What an executable answers: whether it succeeded, or why it gave up. -/
abbrev Verdict := Except Cause Bool

/-- Whether a verdict lets the run go on. -/
def Verdict.succeeded : Verdict → Bool
  | .ok b => b
  | .error _ => false

/-- When an event is sent; afterwards it is known whether the executable succeeded. -/
inductive Phase where
  | before
  | after (success : Bool)
deriving DecidableEq

/-- What an observer is told about one call of an executable. -/
structure Event where
  phase : Phase
  path : String
  quiet : Bool
  /-- The env of the call. -/
  env : Env
  position : Position
deriving DecidableEq

end FlowScript
