import FlowScript.Programs.Format
import FlowScript.Programs.Shell.State

/-!
# Programs that are no shells

A script runs programs that read its input and write to its streams. One that cannot write complains
about it, or is ended by a signal if nobody reads any more.
-/

namespace FlowScript.Programs.Shell

/-- The program with a name, unless it is a shell. -/
def utility? (name : String) : Option Program :=
  match name with
  | "cat" => some cat
  | "echo" => some echo
  | "printf" => some printf
  | "pwd" => some pwd
  | "true" => some fun _ => ⟨0, [], false⟩
  | "false" => some fun _ => ⟨1, [], false⟩
  | _ => none

/-- Takes what a program shows, up to the first output that cannot be written: the streams, and why
it could not. -/
def takeShown (streams : Streams) : Shown → Streams × Option Streams.Refusal
  | [] => (streams, none)
  | (.err, text) :: rest => takeShown (streams.tryWrite 2 text) rest
  | (.out, text) :: rest =>
    if text.isEmpty then takeShown streams rest
    else match streams.write 1 text with
      | .ok streams => takeShown streams rest
      | .error refusal => (streams, some refusal)

/-- Runs a program that is no shell. `checksOutput` says whether it asks for its output before it
begins. -/
def runUtility (p : Program) (checksOutput : Bool) (name : String) (args : List String) :
    Act Ending := do
  let s ← get
  let f := p ⟨name, args, s.exports, s.streams.view, s.streams.input 0, s.streams.target? 1⟩
  let complain (streams : Streams) (text : String) : Act Ending := do
    set { s with streams := streams.tryWrite 2 (name ++ ": " ++ text ++ "\n") }
    return .exited 1
  if checksOutput && (s.streams.stream? 1).isNone then
    complain s.streams ("standard output: " ++ reason .badDescriptor)
  else
    let read := if f.reads then s.streams.drain 0 else s.streams
    match takeShown read f.shown with
    | (_, some (.waiting n)) => throw (.waiting n)
    | (streams, some (.fault e)) => complain streams ("write error: " ++ reason e)
    | (streams, some .unread) =>
      if s.deafTo.contains 13 then complain streams "write error: Broken pipe"
      else
        set { s with streams := streams }
        return .killed 13
    | (streams, none) =>
      -- whoever reads everything waits for all of it
      if let (true, some n) := (f.reads, s.streams.writer? 0) then throw (.starved n)
      set { s with streams := streams }
      return .exited f.status

end FlowScript.Programs.Shell
