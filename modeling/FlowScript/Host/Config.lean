import FlowScript.Env.Chain
import FlowScript.Host.Template
import FlowScript.Toml.Reader

/-!
# Configuration

The configuration is a TOML file: a script to run first, where values are saved, whether to be
quiet, and a table of default values. Everything may be missing, also the file. Keys that mean
nothing here are passed over; a known key with a value of another type is an error.
-/

namespace FlowScript

/-- What the configuration says. -/
structure Config where
  bootstrap : String
  /-- A template for the path of the saved values. -/
  envFile : Option String
  quiet : Bool
  env : Dict String
deriving DecidableEq

/-- Why the configuration could not be read. -/
inductive ConfigError where
  | io (path : String) (reason : IoError)
  | toml (path : String)
  | expansion (e : PathError)
deriving DecidableEq

/-- The text shown for an error. -/
def ConfigError.message : ConfigError → String
  | io path reason => s!"Could not read config file '{path}': " ++ reason.message
  | toml path => s!"Failed to parse TOML from '{path}'"
  | expansion e => e.message

namespace Toml

/-- The string of a value. -/
def Node.string? : Node → Option String
  | .string s => some s
  | _ => none

/-- The truth value of a value. -/
def Node.boolean? : Node → Option Bool
  | .boolean b => some b
  | _ => none

/-- The strings under the keys of a table, if all its values are strings. -/
def Table.strings? : Table → Option (List (String × String))
  | [] => some []
  | (key, .string s) :: rest => (strings? rest).map ((key, s) :: ·)
  | _ :: _ => none

/-- The key that a moment stands under where a table is wanted. -/
def momentKey : String := "$__toml_private_datetime"

/-- The strings of a value that is a table. A moment counts as a table that holds its text. -/
def Node.strings? : Node → Option (Dict String)
  | .table _ entries => (Table.strings? entries).map Dict.ofList
  | .moment m => some (Dict.ofList [(momentKey, m.text)])
  | _ => none

/-- Reads the value under a key; `missing` is what an absent key reads as. -/
def Table.field {β : Type} (t : Table) (key : String) (read : Node → Option β) (missing : β) :
    Option β :=
  match t.get? key with
  | some v => read v
  | none => some missing

end Toml

namespace Config

/-- The configuration that says nothing. -/
def empty : Config := ⟨"", none, false, ∅⟩

/-- The configuration in a table. -/
def ofTable? (t : Toml.Table) : Option Config := do
  let bootstrap ← t.field "bootstrap" Toml.Node.string? ""
  let envFile ← t.field "env_file" (fun v => v.string?.map some) none
  let quiet ← t.field "quiet" Toml.Node.boolean? false
  let env ← t.field "env" Toml.Node.strings? ∅
  some ⟨bootstrap, envFile, quiet, env⟩

/-- The configuration in a text; `origin` is where the text is from. -/
def ofText (text origin : String) : Except ConfigError Config :=
  match (Toml.read? text).bind ofTable? with
  | some c => .ok c
  | none => .error (.toml origin)

/-- The configuration in a file, by default in the usual place. No file is the same as an empty
one. -/
def load (w : World) (explicit : Option String) : Except ConfigError Config :=
  let path := explicit.getD w.configFile
  if w.files.contains path then
    match w.files.readText path with
    | .ok text => ofText text path
    | .error reason => .error (.io path reason)
  else .ok empty

/-- The path of the saved values. -/
def envPath (c : Config) (w : World) : Except ConfigError String :=
  match c.envFile with
  | some template => (w.expandPath template).mapError .expansion
  | none => .ok w.savedFile

/-- Puts the default values into the nearest layer for defaults, or into the env's own layer if
there is none. -/
def applyDefaults (c : Config) (e : Env) : Env :=
  c.env.entries.foldl (fun e (key, value) =>
    if (e.nearest? .default).isSome then e.setIn .default key value else e.set key value) e

end Config

end FlowScript
