/-!
# The language of shell scripts

Commands with words, quotes, parameters and redirections; joined by `;`, `&&`, `||`, `|` and `!`;
grouped, chosen between, repeated and given names. The text of words is a run of bytes, each written
as the character with its number.
-/

namespace FlowScript.Programs.Shell

/-- How a file is opened. -/
inductive Mode where
  | read
  | write
  /-- Writing to a file that may be there whatever the options say. -/
  | overwrite
  | append
  | both
deriving DecidableEq

mutual

/-- What is wanted of a parameter. Where a word is given for it, `colon` says whether the empty
value counts as unset. -/
inductive Form where
  | value
  | length
  | fallback (colon : Bool) (word : List Piece)
  | alternative (colon : Bool) (word : List Piece)
  | assign (colon : Bool) (word : List Piece)
  | demand (colon : Bool) (word : List Piece)
  /-- The value without the part at one end that a pattern matches. -/
  | trim (atEnd longest : Bool) (pattern : List Piece)
  /-- A form that means nothing. -/
  | senseless

/-- A piece of a word. -/
inductive Piece where
  | plain (s : String)
  | escaped (c : Char)
  | single (s : String)
  | double (body : List Piece)
  | param (name : String) (form : Form)
  /-- The value of an expression over integers. -/
  | sum (expression : List Piece)
  /-- The output of a script. -/
  | output (body : Option Command)

/-- Where a stream of a command goes to or comes from. -/
inductive Redirect where
  | file (fd : Nat) (mode : Mode) (target : List Piece)
  | duplicate (fd : Nat) (target : List Piece)
  /-- The text after the line, by its number. -/
  | document (fd : Nat) (number : Nat)

/-- A command. Those that can complain know the line they stand on. -/
inductive Command where
  | simple (line : Nat) (assigns : List (String × List Piece)) (words : List (List Piece))
      (redirects : List Redirect)
  | sequence (a b : Command)
  | both (a b : Command)
  | either (a b : Command)
  | pipe (a b : Command)
  | negate (a : Command)
  | background (a : Command)
  | redirected (line : Nat) (body : Command) (redirects : List Redirect)
  | nested (line : Nat) (body : Command) (redirects : List Redirect)
  | choice (condition yes : Command) (no : Option Command)
  | loop (onFailure : Bool) (condition body : Command)
  | each (line : Nat) (name : String) (words : List (List Piece)) (body : Command)
  | select (line : Nat) (subject : List Piece) (arms : List (List (List Piece) × Option Command))
  | define (name : String) (body : Command)

end

/-- The pieces of a word in order. -/
abbrev Word := List Piece

/-- Whether a character may begin a name. -/
def isNameStart (c : Char) : Bool := c.isAlpha || c == '_'

/-- Whether a character may stand in a name. -/
def isNamePart (c : Char) : Bool := c.isAlphanum || c == '_'

/-- Whether a text is the name of a variable. -/
def isVariableName (cs : List Char) : Bool :=
  cs.head?.any isNameStart && cs.all isNamePart

/-- The text of a word that is written without quotes and parameters. -/
def literal? : Word → Option String
  | [] => some ""
  | .plain s :: rest => (literal? rest).map (s ++ ·)
  | _ => none

/-- The assignment that a word is: the name and the value. The name and the equal sign are written
without quotes. -/
def assignment? : Word → Option (String × Word)
  | .plain s :: rest =>
    let name := s.toList.takeWhile (· ≠ '=')
    let value := s.toList.drop (name.length + 1)
    if isVariableName name && name.length < s.length then
      let word := if value.isEmpty then rest else .plain (String.ofList value) :: rest
      some (String.ofList name, word)
    else none
  | _ => none

end FlowScript.Programs.Shell
