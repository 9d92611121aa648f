import FlowScript.Env.Chain

/-!
# Assignments

What a script assigns in one block or argument list: values under keys, in key order. Two values
are marks that erase instead of assigning: `--` erases the key from the layer that is written,
`---` from the whole chain.
-/

namespace FlowScript

/-- What writing a value does to the key. -/
inductive Erasure where
  | none
  | own
  | everywhere
deriving DecidableEq, Repr

/-- The effect that the text of a value asks for. -/
def Value.erasure (v : Value) : Erasure :=
  if v.raw = "--" then .own
  else if v.raw = "---" then .everywhere
  else .none

/-- Values to be written, in key order. -/
abbrev Assignments := Dict Value

/-- Writes one assignment to an env. -/
def Env.assign (e : Env) (key : String) (v : Value) : Env :=
  match v.erasure with
  | .none => e.setValue key v
  | .own => e.eraseIn e.own.kind key
  | .everywhere => e.erase key

namespace Assignments

/-- Writes all assignments to an env, in key order. -/
def writeTo (a : Assignments) (e : Env) : Env :=
  a.entries.foldl (fun e entry => e.assign entry.1 entry.2) e

/-- The texts that are assigned. -/
def texts (a : Assignments) : Dict String :=
  a.map Value.raw

end Assignments

end FlowScript
