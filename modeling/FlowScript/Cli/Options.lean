import FlowScript.Text.Cut

/-!
# Options

The arguments of the command line are options and then a script. The first argument that is no
option starts the script, and from there on every argument belongs to it as it is written.
-/

namespace FlowScript.Cli

/-- What the command line asks for. -/
structure Options where
  config : Option String
  list : Bool
  quiet : Bool
  script : List String
deriving DecidableEq

/-- Why the command line asks for nothing to be run: a wish for help, or a mistake. -/
inductive UsageError where
  | help
  | version
  | invalidValue
  | repeated
  | unneededValue
deriving DecidableEq

namespace Options

/-- No options and no script. -/
def empty : Options := ⟨none, false, false, []⟩

/-- The flag with a letter. A flag is given once; the last two are answered at once. -/
def flag (o : Options) (letter : Char) : Except UsageError Options :=
  match letter with
  | 'l' => if o.list then .error .repeated else .ok { o with list := true }
  | 'q' => if o.quiet then .error .repeated else .ok { o with quiet := true }
  | 'h' => .error .help
  | _ => .error .version

/-- Several flags in order. -/
def flags (o : Options) : List Char → Except UsageError Options
  | [] => .ok o
  | c :: rest => do (← o.flag c).flags rest

/-- The path of the configuration. It is given once and is not empty. -/
def setConfig (o : Options) (path : String) : Except UsageError Options :=
  if o.config.isSome then .error .repeated
  else if path.isEmpty then .error .invalidValue
  else .ok { o with config := some path }

end Options

/-! ## Arguments -/

/-- What an argument in front of the script is. -/
inductive Argument where
  | separator
  | flags (letters : List Char)
  /-- The option for the configuration, with its value if that is in the same argument. -/
  | config (value : Option String)
  /-- A flag with a value. -/
  | valuedFlag
  | script
deriving DecidableEq

namespace Argument

/-- The flags with long names. -/
def longFlag? : String → Option Char
  | "--list" => some 'l'
  | "--quiet" => some 'q'
  | "--help" => some 'h'
  | "--version" => some 'V'
  | _ => none

/-- Whether a character is a flag. -/
def isFlag (c : Char) : Bool := ['l', 'q', 'h', 'V'].contains c

/-- The flags that letters after one dash are; other letters belong to the script. -/
def ofLetters : List Char → Argument
  | '-' :: c :: rest => if (c :: rest).all isFlag then .flags (c :: rest) else .script
  | _ => .script

/-- What an argument is. -/
def ofText (s : String) : Argument :=
  if s = "--" then .separator
  else if s = "--config" then .config none
  else match longFlag? s, Text.cut '=' s with
    | some c, _ => .flags [c]
    | none, some (name, value) =>
      if name = "--config" then .config (some value)
      else if (longFlag? name).isSome then .valuedFlag
      else .script
    | none, none => ofLetters s.toList

end Argument

/-! ## Reading -/

/-- What the argument before the next one has left open. -/
inductive Pending where
  | nothing
  /-- The option for the configuration still wants its value. -/
  | wanted
  /-- It has its value, which is looked at when the next argument has been told apart. -/
  | given (path : String)
deriving DecidableEq

/-- The options with what was left open. -/
def Options.settle (o : Options) : Pending → Except UsageError Options
  | .nothing => .ok o
  | .wanted => .error .invalidValue
  | .given path => o.setConfig path

/-- Reads arguments after some options. Whatever is no option can be a value. A flag with a value is
a mistake that comes before those in what was left open. -/
def Options.read (o : Options) (pending : Pending) : List String → Except UsageError Options
  | [] => o.settle pending
  | arg :: rest =>
    match Argument.ofText arg, pending with
    | .valuedFlag, _ => .error .unneededValue
    | .script, .wanted => o.read (.given arg) rest
    | .separator, _ => do .ok { ← o.settle pending with script := rest }
    | .script, _ => do .ok { ← o.settle pending with script := arg :: rest }
    | .flags letters, _ => do (← (← o.settle pending).flags letters).read .nothing rest
    | .config (some value), _ => do (← (← o.settle pending).setConfig value).read .nothing rest
    | .config none, _ => do (← o.settle pending).read .wanted rest

/-- The options and the script in the arguments of the command line. -/
def Options.ofArgs (args : List String) : Except UsageError Options :=
  Options.empty.read .nothing args

end FlowScript.Cli
