import FlowScript.Host.Files
import FlowScript.Text.Decimal

/-!
# The world around a run

What a run can see and change outside its env: files, variables, and what it shows. What it shows is
kept as a list of effects, so that a run stays a function and whoever calls it plays the effects in
order.
-/

namespace FlowScript

/-! ## Effects -/

/-- Something that can be noticed from outside. -/
inductive Effect where
  | out (bytes : Text.Bytes)
  | err (bytes : Text.Bytes)
  | pause (seconds : Text.Decimal)
deriving DecidableEq

/-- Files, variables, how text is shown, and what has been shown so far. -/
structure World where
  files : Files
  /-- The variables that programs inherit. -/
  vars : Dict String
  /-- The directory for configuration and saved values. -/
  configDir : String
  /-- Whether text is shown in colours. -/
  colors : Bool
  /-- The effects so far, the latest first. -/
  emitted : List Effect

namespace World

/-- Adds an effect. -/
def emit (w : World) (e : Effect) : World :=
  { w with emitted := e :: w.emitted }

/-- The effects so far in order. -/
def effects (w : World) : List Effect := w.emitted.reverse

/-- Shows bytes as ordinary output. -/
def putBytes (w : World) (bs : Text.Bytes) : World :=
  w.emit (.out bs)

/-- Shows a line as ordinary output. -/
def putLine (w : World) (line : String) : World :=
  w.emit (.out (Text.bytes (line ++ "\n")))

/-- Shows a line as a complaint. -/
def putErrorLine (w : World) (line : String) : World :=
  w.emit (.err (Text.bytes (line ++ "\n")))

/-- All ordinary output so far. -/
def output (w : World) : Text.Bytes :=
  w.effects.flatMap fun
    | .out bs => bs
    | _ => []

/-- All complaints so far. -/
def complaints (w : World) : Text.Bytes :=
  w.effects.flatMap fun
    | .err bs => bs
    | _ => []

/-- The value of a variable. -/
def var? (w : World) (name : String) : Option String :=
  w.vars.get? name

end World

/-! ## Colours -/

/-- How a text is set off. -/
inductive Style where
  | red
  | redBold
  | green
  | blue
  | cyan
  | dimmed
deriving DecidableEq

/-- The sequence that begins a style. -/
def Style.sequence : Style → String
  | red => "\x1b[31m"
  | redBold => "\x1b[1;31m"
  | green => "\x1b[32m"
  | blue => "\x1b[34m"
  | cyan => "\x1b[36m"
  | dimmed => "\x1b[2m"

/-- The sequence that ends every style. -/
def Style.reset : String := "\x1b[0m"

/-- A text in a style, if colours are shown. Where the text itself ends a style, this one begins
again. -/
def World.paint (w : World) (style : Style) (s : String) : String :=
  if w.colors then
    let inner := Text.join (Style.reset ++ style.sequence) (Text.splitOn Style.reset s)
    style.sequence ++ inner ++ Style.reset
  else s

end FlowScript
