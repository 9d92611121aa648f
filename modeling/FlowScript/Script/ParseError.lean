import FlowScript.Text.Cut

/-!
# Parse errors

What can be wrong with a script, where in the command tree it was found, and the tokens that were
being read. Stage and wording follow from the fault.
-/

namespace FlowScript

/-- What is wrong with a sequence. -/
inductive ParseFault where
  | unclosedBlock
  | notAssignments
  | unknownCommand (token : String)
  | notArguments
deriving DecidableEq

/-- A fault, the path of the command reached so far, and the tokens being read. -/
structure ParseError where
  fault : ParseFault
  path : String
  tokens : List String
deriving DecidableEq

namespace ParseError

/-- Which part of a sequence was being read. -/
def stage (e : ParseError) : String :=
  match e.fault with
  | .unclosedBlock | .notAssignments => "Env block"
  | .unknownCommand _ => "Command path"
  | .notArguments => "Argument"

/-- What is wrong, in words. -/
def detail (e : ParseError) : String :=
  match e.fault with
  | .unclosedBlock => "'\x7b' is never closed by '\x7d'"
  | .notAssignments => "tokens inside the env block are not assignments"
  | .unknownCommand token => s!"unknown command '{token}'"
  | .notArguments =>
    "tokens should be args of '" ++ e.path ++ "' but could not be read as such"

/-- The text shown for an error. -/
def message (e : ParseError) : String :=
  let path := if e.path.isEmpty then "<root>" else e.path
  e.stage ++ " error under '" ++ path ++ "': " ++ e.detail ++
    " (near '" ++ Text.join " " e.tokens ++ "')"

end ParseError

end FlowScript
