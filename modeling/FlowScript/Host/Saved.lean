import FlowScript.Host.Config
import FlowScript.Toml.Writer

/-!
# Saved values

The values of one layer are kept in a TOML file between runs, as strings in the table `env`.
-/

namespace FlowScript

/-- Why values could not be saved or loaded. -/
inductive SaveError where
  | io (path : String) (reason : IoError)
  | toml (path : String)
deriving DecidableEq

namespace SaveError

/-- The text shown for an error. -/
def message : SaveError → String
  | io path reason => s!"I/O error on persisted env file '{path}': " ++ reason.message
  | toml path => s!"Failed to parse persisted env file '{path}'"

/-- The text of an error and of the reason it came from. -/
def texts (e : SaveError) : List String :=
  match e with
  | io _ reason => [e.message, reason.message]
  | toml _ => [e.message]

end SaveError

namespace Saved

/-- The table that the values are under. -/
def header : String := "env"

/-- The text of a file with some values. -/
def write (values : Dict String) : String :=
  Toml.writeTable header values

/-- The values in the text of a file. -/
def read? (text : String) : Option (Dict String) := do
  (← Toml.read? text).field header Toml.Node.strings? ∅

/-- Puts the values of a file into the own layer of an env; how many there are comes first. No file
is the same as one without values. -/
def load (files : Files) (path : String) (e : Env) : Except SaveError (Nat × Env) :=
  if files.contains path then
    match files.readText path with
    | .error reason => .error (.io path reason)
    | .ok text =>
      match read? text with
      | none => .error (.toml path)
      | some values =>
        .ok (values.size, values.entries.foldl (fun e (key, value) => e.set key value) e)
  else .ok (0, e)

/-- Writes the values of a layer to a file, in place of its contents, and gives how many there are.
Directories that were made on the way stay even if that fails. -/
def save (files : Files) (path : String) (l : Layer) : Except SaveError Nat × Files :=
  let dir := (Path.parent? path).getD ""
  match files.createAll dir with
  | (.error reason, files) => (.error (.io dir reason), files)
  | (.ok (), files) =>
    match files.writeBytes path (Text.bytes (write l.texts)) with
    | .error reason => (.error (.io path reason), files)
    | .ok files => (.ok l.values.size, files)

end Saved

end FlowScript
