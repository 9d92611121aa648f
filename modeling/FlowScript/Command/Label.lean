import FlowScript.Text.Blank

/-!
# Names and abbreviations

Commands and their parameters go by labels: a name and any number of abbreviations. Labels that
stand side by side (the sub-commands of one command, the parameters of one executable) share no
spelling, so a spelling stands for at most one of them. `Label.accept` is the only way in.
-/

namespace FlowScript

/-- What a label is for. -/
inductive LabelUse where
  | command
  | argument
deriving DecidableEq, Repr

/-- The word for a use. -/
def LabelUse.word : LabelUse → String
  | command => "command"
  | argument => "argument"

/-- Why a registration was refused. -/
inductive RegistrationError where
  | invalidName (use : LabelUse) (name : String)
  | duplicateName (use : LabelUse) (name owner : String)
  | duplicateAbbr (use : LabelUse) (abbr name existing owner : String)
  | executableExists (path : String)
deriving DecidableEq

/-- The text shown for a refusal. -/
def RegistrationError.message : RegistrationError → String
  | invalidName use name =>
    let word := use.word
    s!"Invalid {word} name '{name}': names must be non-empty and contain no whitespace, " ++
      "'.', '/', '\x7b', '\x7d', '=' or ':'."
  | duplicateName use name owner =>
    let word := use.word
    s!"Duplicate {word} name '{name}' under '{owner}'."
  | duplicateAbbr use abbr name existing owner =>
    let word := use.word
    s!"The {word} name or abbreviation '{abbr}' of '{name}' " ++
      s!"is already taken by '{existing}' under '{owner}'."
  | executableExists path => s!"Command '{path}' already has an executable."

/-- Steps of registration: a refused step keeps what was written before it. -/
abbrev Registering (σ : Type) := ExceptT RegistrationError (StateM σ)

/-! ## Valid names -/

/-- Whether a character may stand in a name. Blanks and the characters that scripts use for paths,
blocks, assignments and sequences may not. -/
def isNameChar (c : Char) : Bool :=
  !Text.isBlank c && !(['.', '/', '{', '}', '=', ':'].contains c)

/-- Whether a text can be a name or an abbreviation. -/
def isName (s : String) : Bool :=
  !s.isEmpty && s.toList.all isNameChar

/-- Refuses a text that is no name. -/
def checkName (use : LabelUse) (s : String) : Except RegistrationError Unit :=
  if isName s then .ok () else .error (.invalidName use s)

/-! ## Labels -/

/-- A name with its abbreviations, none of which is the name itself. -/
structure Label where
  name : String
  abbrs : List String
deriving DecidableEq, Repr

namespace Label

/-- All texts that stand for the label. -/
def spellings (l : Label) : List String :=
  l.name :: l.abbrs

/-- Whether a text stands for the label. -/
def isSpelled (l : Label) (token : String) : Bool :=
  l.spellings.contains token

/-- The name that a text stands for among some labels. -/
def resolve (labels : List Label) (token : String) : Option String :=
  (labels.find? (·.isSpelled token)).map (·.name)

/-- Refuses the first abbreviation that is no name, is taken among the siblings, or occurs a second
time. `seen` holds the abbreviations before. -/
def checkAbbrs (use : LabelUse) (owner : String) (siblings : List Label) (name : String) :
    List String → List String → Except RegistrationError Unit
  | _, [] => .ok ()
  | seen, abbr :: rest => do
    checkName use abbr
    match resolve siblings abbr with
    | some existing => .error (.duplicateAbbr use abbr name existing owner)
    | none =>
      if seen.contains abbr then .error (.duplicateAbbr use abbr name name owner)
      else checkAbbrs use owner siblings name (abbr :: seen) rest

/-- The label of a name and its abbreviations, if it can stand beside the siblings. An abbreviation
equal to the name is left out. -/
def accept (use : LabelUse) (owner : String) (siblings : List Label) (name : String)
    (abbrs : List String) : Except RegistrationError Label := do
  checkName use name
  match resolve siblings name with
  | some existing =>
    if existing = name then .error (.duplicateName use name owner)
    else .error (.duplicateAbbr use name name existing owner)
  | none =>
    let abbrs := abbrs.filter (· ≠ name)
    checkAbbrs use owner siblings name [] abbrs
    .ok ⟨name, abbrs⟩

end Label

end FlowScript
