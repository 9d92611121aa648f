import FlowScript.Text.Cut

/-!
# Options of programs

Options of a program are letters after a dash, or long names after two, of which the beginning is
enough where it is that of one name only. Nothing after two dashes alone is an option.
-/

namespace FlowScript.Programs

/-- The options that a program knows. -/
structure OptionTable where
  letters : List Char
  /-- Long names and the letters they stand for; those without one only ask for help. -/
  names : List (String × Option Char)

/-- What arguments turn out to be. -/
inductive OptionReading where
  /-- Letters of options, and operands. -/
  | taken (letters : List Char) (operands : List String)
  /-- Help is asked for. -/
  | help
  | refused (complaint : String)

namespace OptionTable

/-- What a long option means: its name and letter, or a complaint. `text` is what follows the
dashes. -/
def long (t : OptionTable) (text : String) : Except String (Option Char) :=
  let (name, hasValue) := match Text.cut '=' text with
    | some (name, _) => (name, true)
    | none => (text, false)
  let begun := t.names.filter fun (full, _) => name.toList.isPrefixOf full.toList
  let quoted (name : String) : String := "'--" ++ name ++ "'"
  match t.names.find? (·.1 = name), begun with
  | some (full, letter), _ | none, [(full, letter)] =>
    if hasValue then .error ("option " ++ quoted full ++ " doesn't allow an argument")
    else .ok letter
  | none, [] => .error ("unrecognized option " ++ quoted text)
  | none, _ =>
    .error ("option " ++ quoted text ++ " is ambiguous; possibilities:" ++
      String.join (begun.map fun (full, _) => " " ++ quoted full))

/-- Reads arguments in order, up to the first complaint or request for help. `mixed` says that
options may follow operands. -/
def read (t : OptionTable) (mixed : Bool) : List String → OptionReading
  | [] => .taken [] []
  | "--" :: rest => .taken [] rest
  | arg :: rest =>
    let more (letters : List Char) (operands : List String) : OptionReading :=
      match t.read mixed rest with
      | .taken ls os => .taken (letters ++ ls) (operands ++ os)
      | r => r
    match arg.toList with
    | '-' :: '-' :: text =>
      match t.long (String.ofList text) with
      | .error complaint => .refused complaint
      | .ok none => .help
      | .ok (some letter) => more [letter] []
    | '-' :: c :: cs =>
      match (c :: cs).find? (!t.letters.contains ·) with
      | some bad => .refused ("invalid option -- '" ++ String.singleton bad ++ "'")
      | none => more (c :: cs) []
    | _ => if mixed then more [] [arg] else .taken [] (arg :: rest)

end OptionTable

end FlowScript.Programs
