import FlowScript.Script.Sequence
import FlowScript.Script.Walk

/-!
# Flows

A script as a whole is a flow: one invocation for each sequence, and the values for the whole script
that its first sequence may open with.
-/

namespace FlowScript

/-- The invocations of a script, the values for all of them, and which of the invocations these
values came from. -/
structure Flow where
  commands : List Invocation
  globalEnv : Option Assignments
  globalIndex : Option Nat
deriving DecidableEq

namespace Flow

/-- The flow of invocations, without values for all of them. -/
def ofCommands (commands : List Invocation) : Flow := ⟨commands, none, none⟩

/-- Takes the assignments before the first command of the first invocation as values for the whole
script. -/
def hoist : List Invocation → Flow
  | ⟨⟨env, none⟩ :: segments⟩ :: rest => ⟨⟨segments⟩ :: rest, env, some 0⟩
  | commands => ofCommands commands

end Flow

/-- Reads sequences in order, up to the first that cannot be read. -/
def CommandTree.readInvocations {α : Type} (t : CommandTree α) (sequences : List (List String))
    (index : CommandTree α := t) : Except ParseError (List Invocation) :=
  match sequences with
  | [] => .ok []
  | tokens :: rest => do
    let i ← t.readInvocation tokens index
    let others ← t.readInvocations rest index
    .ok (i :: others)

/-- Reads a script. Values for the whole script are only taken if it does not begin with a
separator. -/
def CommandTree.readFlow {α : Type} (t : CommandTree α) (b : Breaker) (tokens : List String)
    (index : CommandTree α := t) : Except ParseError Flow := do
  let sequences := b.sequences tokens
  let commands ← t.readInvocations sequences.groups index
  .ok (if sequences.opensGlobal then .hoist commands else .ofCommands commands)

end FlowScript
