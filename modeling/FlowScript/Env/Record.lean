import FlowScript.Env.Chain
import FlowScript.Text.Cut

/-!
# Env records

A program that the script runs may write to the env through its output: a line that starts with
the mark and has a key, a value and possibly a layer after it, with tabs between, is a record.
All other lines are ordinary output.
-/

namespace FlowScript

/-- One value written to the env by a program, with the layer it is meant for. -/
structure EnvRecord where
  key : String
  value : String
  layer : Option LayerKind
deriving DecidableEq

namespace EnvRecord

/-- The first field of every record line. -/
def mark : String := "CMDFLOW_ENV"

/-- The character between fields. -/
def fieldSep : Char := '\t'

/-- The line that carries a record, without a line end. -/
def format (r : EnvRecord) : String :=
  let tab := String.singleton fieldSep
  let line := mark ++ tab ++ r.key ++ tab ++ r.value
  match r.layer with
  | some kind => line ++ tab ++ kind.word
  | none => line

/-- The record with the given fields after the mark. A record has a key that is not empty, and the
layer, where there is one, is a known one. -/
def ofFields? : List String → Option EnvRecord
  | [key, value] => if key.isEmpty then none else some ⟨key, value, none⟩
  | [key, value, layer] =>
    if key.isEmpty then none
    else match LayerKind.ofText layer with
      | .ok kind => some ⟨key, value, some kind⟩
      | .error _ => none
  | _ => none

/-- The record that a line carries. -/
def parse? (line : String) : Option EnvRecord :=
  match Text.splitAt fieldSep (Text.trimLineEnd line) with
  | [] => none
  | first :: fields => if first = mark then ofFields? fields else none

/-- The records among some lines and the other lines, each in order. -/
def partition : List String → List EnvRecord × List String
  | [] => ([], [])
  | line :: rest =>
    let (records, others) := partition rest
    match parse? line with
    | some r => (r :: records, others)
    | none => (records, line :: others)

/-- Writes a record to its layer; if the chain has none of that kind, to the session, and if there
is no session either, to the env's own layer. -/
def apply (r : EnvRecord) (e : Env) : Env :=
  match (r.layer.toList ++ [LayerKind.session]).find? fun kind => (e.nearest? kind).isSome with
  | some kind => e.setIn kind r.key r.value
  | none => e.set r.key r.value

/-- Writes records in order. -/
def applyAll (records : List EnvRecord) (e : Env) : Env :=
  records.foldl (fun e r => r.apply e) e

end EnvRecord

end FlowScript
