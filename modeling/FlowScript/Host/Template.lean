import FlowScript.Host.World
import FlowScript.Text.Alphanumeric

/-!
# Path templates

A path in the configuration may start with `~` for the home directory and name variables as `$NAME`,
`$` and a name in braces, or that with a default after `:-`. Two dollar signs stand for one. What a
variable or the home directory holds is not expanded again.
-/

namespace FlowScript

/-- Why a path of the tool itself could not be found. -/
inductive PathError where
  | unsetVariable (template name : String)
deriving DecidableEq

/-- The text shown for an error. -/
def PathError.message : PathError → String
  | unsetVariable template name =>
    s!"Failed to expand path template '{template}': " ++
      s!"error looking key '{name}' up: environment variable not found"

namespace Template

/-- Whether a character may stand in the name of a variable. -/
def isNameChar (c : Char) : Bool :=
  Text.isAlphanumeric c || c == '_'

/-- A piece of a template. -/
inductive Piece where
  | text (cs : List Char)
  | variable (name : List Char) (default : Option (List Char))
deriving DecidableEq

/-- The variable between braces, with the default that may follow `:-`. A name before the default is
not empty. -/
def ofBraces (inside : List Char) : Piece :=
  match Text.cutRun [':', '-'] inside with
  | some (c :: name, default) => .variable (c :: name) (some default)
  | _ => .variable inside none

/-- The pieces of a template. Every step takes at least one character. -/
def pieces : (fuel : Nat) → List Char → List Piece
  | 0, _ => []
  | _, [] => []
  | fuel + 1, '$' :: '$' :: rest => .text ['$'] :: pieces fuel rest
  | fuel + 1, '$' :: '{' :: rest =>
    match Text.cutChars '}' rest with
    | some (inside, rest) => ofBraces inside :: pieces fuel rest
    | none => .text ['$', '{'] :: pieces fuel rest
  | fuel + 1, '$' :: rest =>
    let name := rest.takeWhile isNameChar
    if name.isEmpty then .text ['$'] :: pieces fuel rest
    else .variable name none :: pieces fuel (rest.dropWhile isNameChar)
  | fuel + 1, c :: rest => .text [c] :: pieces fuel rest

/-- The value of a variable. A name that holds an equal sign means the rest of a value that begins
with what follows the sign. -/
def valueOf? (vars : Dict String) (name : List Char) : Option String :=
  if name.contains '=' then
    vars.entries.findSome? fun (key, value) =>
      let written := key.toList ++ '=' :: value.toList
      if (name ++ ['=']).isPrefixOf written then
        some (String.ofList (written.drop (name.length + 1)))
      else none
  else vars.get? (String.ofList name)

/-- The text of a piece; a variable that is neither set nor has a default is named. -/
def Piece.expand (vars : Dict String) : Piece → Except String String
  | .text cs => .ok (String.ofList cs)
  | .variable name default =>
    match valueOf? vars name, default with
    | some value, _ => .ok value
    | none, some cs => .ok (String.ofList cs)
    | none, none => .error (String.ofList name)

/-- The texts of some pieces in order, up to the first that cannot be expanded. -/
def expandAll (vars : Dict String) : List Piece → Except String String
  | [] => .ok ""
  | p :: rest => do
    let s ← p.expand vars
    let t ← expandAll vars rest
    .ok (s ++ t)

/-- A path with the home directory in place of a tilde that is all of it or its first part. -/
def expandHome (home path : String) : String :=
  match path.toList with
  | '~' :: rest =>
    if rest.isEmpty || rest.head? = some '/' then home ++ String.ofList rest else path
  | _ => path

/-- The names of the variables in a template. -/
def names (template : String) : List String :=
  (pieces template.length template.toList).filterMap fun
    | .text _ => none
    | .variable name _ => some (String.ofList name)

end Template

/-- The home directory. -/
def World.home (w : World) : String :=
  (w.var? "HOME").getD "~"

/-- The path that a template stands for. The tilde has to stand in the template itself, but what
follows it may come from a variable. -/
def World.expandPath (w : World) (template : String) : Except PathError String :=
  match Template.expandAll w.vars (Template.pieces template.length template.toList) with
  | .error name => .error (.unsetVariable template name)
  | .ok path =>
    .ok (if template.toList.head? = some '~' then Template.expandHome w.home path else path)

/-- The path of the configuration: a variable may name it. -/
def World.configFile (w : World) : String :=
  match w.var? "CMDFLOW_CONFIG" with
  | some path => if path.isEmpty then Path.join w.configDir "config.toml" else path
  | none => Path.join w.configDir "config.toml"

/-- The path of the saved values, unless the configuration gives another. -/
def World.savedFile (w : World) : String :=
  Path.join w.configDir "env.toml"

end FlowScript
