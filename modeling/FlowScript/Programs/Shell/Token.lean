import FlowScript.Dict
import FlowScript.Programs.Shell.Syntax

/-!
# Tokens of shell scripts

A script is read character by character. Backslashes at the ends of lines join them, and what stands
in quotes belongs to one word. A token that was read too early is read again. A fault knows the line
it was found on.
-/

namespace FlowScript.Programs.Shell

/-! ## Tokens -/

/-- A token of a script. -/
inductive Token where
  | ending
  | newline
  | redirect
  | word
  | semicolon
  | ampersand
  | both
  | either
  | pipe
  | opening
  | closing
  | endArm
  | keyword (s : String)
deriving DecidableEq

/-- Words that mean something in the place of a command. -/
def keywords : List String :=
  ["!", "case", "do", "done", "elif", "else", "esac", "fi", "for", "if", "in", "then", "until",
    "while", "\x7b", "\x7d"]

namespace Token

/-- A token as it is named in a complaint. -/
def name : Token → String
  | ending => "end of file"
  | newline => "newline"
  | redirect => "redirection"
  | word => "word"
  | semicolon => "\";\""
  | ampersand => "\"&\""
  | both => "\"&&\""
  | either => "\"||\""
  | pipe => "\"|\""
  | opening => "\"(\""
  | closing => "\")\""
  | endArm => "\";;\""
  | keyword s => "\"" ++ s ++ "\""

/-- Whether a token ends a list of commands. -/
def endsList : Token → Bool
  | ending | closing | endArm => true
  | keyword s => ["do", "done", "elif", "else", "esac", "fi", "then", "\x7d"].contains s
  | _ => false

end Token

/-! ## The reader -/

/-- An alias whose text is being read. -/
structure BusyAlias where
  name : String
  /-- How much of the script is left when the text has been read. -/
  left : Nat
  /-- Whether the text ends in a blank; then the word after it may be an alias as well. -/
  goesOn : Bool

/-- Why a script cannot be read. -/
structure Fault where
  line : Nat
  text : String

/-- Whether braces or parentheses were not closed that hold no commands. -/
def Fault.isOpen (f : Fault) : Bool :=
  ["Syntax error: Missing '\x7d'", "Syntax error: Missing '))'"].contains f.text

/-- What kind of redirection has been read. -/
inductive RedirectKind where
  | file (mode : Mode)
  | duplicate
  | document (strip : Bool)

/-- A document that stands after the line being read. -/
structure Pending where
  number : Nat
  delimiter : List Char
  /-- Whether the document is taken as it stands. -/
  raw : Bool
  /-- Whether tabs at the start of its lines are left out. -/
  strip : Bool

/-- What is left of a script, and what has been read of it. -/
structure Reader where
  chars : List Char
  line : Nat
  /-- The token read last. -/
  last : Token := .newline
  /-- Whether it is read again. -/
  again : Bool := false
  /-- The word read last, and whether any of it was quoted. -/
  word : Word := []
  quoted : Bool := false
  /-- The redirection read last. -/
  redirect : Nat × RedirectKind := (0, .duplicate)
  pending : List Pending := []
  /-- The documents read so far, by their numbers. -/
  documents : List (Nat × Word) := []
  /-- The number of the next document. -/
  next : Nat
  aliases : Dict String
  /-- Whether a document is being read. -/
  inDocument : Bool := false
  /-- Whether the lines may be shown as they are read. -/
  visible : Bool := false
  /-- Whether somebody is asked for each line. -/
  prompts : Bool := false
  /-- The aliases being read. -/
  busy : List BusyAlias := []

/-- A part of the grammar. -/
abbrev Parse (β : Type) := StateT Reader (Except Fault) β

/-- Gives up on the current line. -/
def fault {β : Type} (text : String) : Parse β := do
  throw ⟨(← get).line, "Syntax error: " ++ text⟩

/-- Gives up on the last token. -/
def unexpected {β : Type} : Parse β := do
  fault ((← get).last.name ++ " unexpected")

/-- Gives up on the last token where another one was wanted. -/
def unexpectedFor {β : Type} (t : Token) : Parse β := do
  fault ((← get).last.name ++ " unexpected (expecting " ++ t.name ++ ")")

/-- Has the last token read again. -/
def pushBack : Parse Unit :=
  modify fun r => { r with again := true }

/-! ## Characters -/

/-- A text without backslashes at the ends of lines at its front, and how many there were. -/
def dropJoins : List Char → List Char × Nat
  | '\\' :: '\n' :: rest =>
    let (cs, n) := dropJoins rest
    (cs, n + 1)
  | cs => (cs, 0)

/-- The next character, joined lines aside, which is left where it is. -/
def peekChar : Parse (Option Char) := do
  let r ← get
  let (cs, n) := dropJoins r.chars
  set { r with chars := cs, line := r.line + n }
  return cs.head?

/-- Passes over a character. -/
def dropChar : Parse Unit :=
  modify fun r => { r with
    chars := r.chars.tail
    line := if r.chars.head? = some '\n' then r.line + 1 else r.line }

/-- Takes the next character, joined lines aside. -/
def takeChar : Parse (Option Char) := do
  let c ← peekChar
  dropChar
  return c

/-- Takes the next character, joined lines aside. A line end is not counted. -/
def takeUncounted : Parse (Option Char) := do
  let c ← peekChar
  modify fun r => { r with chars := r.chars.tail }
  return c

/-- Takes the next character as it stands. -/
def takeRaw : Parse (Option Char) := do
  let c := (← get).chars.head?
  dropChar
  return c

/-- Passes over a character if it is the next one. -/
def takeIf (c : Char) : Parse Bool := do
  if (← peekChar) = some c then
    dropChar
    return true
  else return false

/-- Takes characters as long as they satisfy a test. -/
def takeWhileChar (p : Char → Bool) : (fuel : Nat) → Parse (List Char)
  | 0 => return []
  | fuel + 1 => do
    match ← peekChar with
    | none => return []
    | some c =>
      if p c then
        dropChar
        return c :: (← takeWhileChar p fuel)
      else return []

/-- Notes that something was quoted. -/
def markQuoted : Parse Unit :=
  modify fun r => { r with quoted := true }

/-- Whether a character ends a word. -/
def endsWord (c : Char) : Bool :=
  [' ', '\t', '\n', ';', '&', '|', '<', '>', '(', ')'].contains c

/-- Whether a character is a parameter of its own. -/
def isSpecial (c : Char) : Bool :=
  c.isDigit || ['#', '?', '$', '!', '-', '*', '@'].contains c

/-- The quote for commands. -/
def backquote : Char := '\x60'

/-- Takes the text up to a single quote. -/
def takeSingle : (fuel : Nat) → Parse (List Char)
  | 0 => fault "Unterminated quoted string"
  | fuel + 1 => do
    match ← takeRaw with
    | none => fault "Unterminated quoted string"
    | some '\'' => return []
    | some c => return c :: (← takeSingle fuel)

/-- Takes the text up to a quote for commands; `double` says whether it stands in double quotes. A
backslash before some characters is left out. -/
def takeBackquoted (double : Bool) : (fuel : Nat) → Parse (List Char)
  | 0 => fault "EOF in backquote substitution"
  | fuel + 1 => do
    match ← takeChar with
    | none => fault "EOF in backquote substitution"
    | some '\\' =>
      match ← takeRaw with
      | none => fault "EOF in backquote substitution"
      | some c =>
        let plain := c = '\\' || c = '$' || c = backquote || (double && c = '"')
        let rest ← takeBackquoted double fuel
        return if plain then c :: rest else '\\' :: c :: rest
    | some c => if c = backquote then return [] else return c :: (← takeBackquoted double fuel)

/-- Takes the word that ends a document, without its quotes. -/
def takeDelimiter : (fuel : Nat) → Parse (List Char)
  | 0 => return []
  | fuel + 1 => do
    match ← peekChar with
    | none => return []
    | some c =>
      if endsWord c then return []
      else
        dropChar
        if c = '\'' then
          markQuoted
          return (← takeSingle fuel) ++ (← takeDelimiter fuel)
        else if c = '"' then
          markQuoted
          return (← takeDoubled fuel) ++ (← takeDelimiter fuel)
        else if c = '\\' then
          markQuoted
          return (← takeRaw).toList ++ (← takeDelimiter fuel)
        else return c :: (← takeDelimiter fuel)
where
  /-- Takes the text up to a double quote. -/
  takeDoubled : (fuel : Nat) → Parse (List Char)
    | 0 => fault "Unterminated quoted string"
    | fuel + 1 => do
      match ← takeChar with
      | none => fault "Unterminated quoted string"
      | some '"' => return []
      | some '\\' => return (← takeRaw).toList ++ (← takeDoubled fuel)
      | some c => return c :: (← takeDoubled fuel)

/-! ## Documents -/

/-- Whether a line ends in a backslash that is not itself escaped. -/
def isJoined (line : List Char) : Bool :=
  (line.reverse.takeWhile (· == '\\')).length % 2 = 1

/-- The text of a document, what follows it, and how many lines it took. `joined` says whether the
line goes on the one before. -/
def documentText (d : Pending) : (fuel : Nat) → (joined : Bool) → List Char →
    List Char × List Char × Nat
  | 0, _, cs => ([], cs, 0)
  | fuel + 1, joined, cs =>
    if cs.isEmpty then ([], [], 0)
    else
      let line := cs.takeWhile (· ≠ '\n')
      let rest := cs.drop line.length
      let shown := if d.strip && !joined then line.dropWhile (· == '\t') else line
      let ending := rest.take 1
      if !joined && shown = d.delimiter then ([], rest.drop 1, 1)
      else
        let (text, rest', n) := documentText d fuel (!d.raw && isJoined line) (rest.drop 1)
        (shown ++ (ending ++ text), rest', n + ending.length)

/-! ## Words -/

/-- Puts plain text in front of some pieces. -/
def flushPlain (text : List Char) (w : Word) : Word :=
  if text.isEmpty then w else .plain (String.ofList text.reverse) :: w

/-- Which characters may be replaced before a token is recognised. -/
structure Wanted where
  /-- Whether line ends do not count. -/
  lines : Bool := false
  keywords : Bool := false
  aliases : Bool := false

/-- What is wanted where a command begins. -/
def Wanted.command : Wanted := ⟨true, true, true⟩

/-- The alias that a word is, unless it is being read. -/
def Reader.alias? (r : Reader) : Option (String × String) := do
  if r.aliases.isEmpty || r.quoted then none
  else
    let name ← literal? r.word
    let value ← r.aliases.get? name
    if r.busy.any fun b => b.name = name && r.chars.length ≥ b.left then none
    else some (name, value)

/-- Puts the text of an alias in front of what is left. -/
def Reader.expandAlias (r : Reader) (name value : String) : Reader :=
  let goesOn := value.toList.getLast?.any fun c => c = ' ' || c = '\t'
  { r with
    chars := value.toList ++ r.chars
    -- what has been read of others is behind
    busy := ⟨name, r.chars.length, goesOn⟩ :: r.busy.filter (r.chars.length ≥ ·.left) }

/-- Whether the end of an alias that lets the next word be one lies between two places. -/
def Reader.hasPassed (r : Reader) (before : Nat) : Bool :=
  r.busy.any fun b => b.goesOn && before > b.left && r.chars.length ≤ b.left

/-- The operator that a character begins, if it is not the start of a word or a redirection. -/
def operator? (c : Char) : Option (Token × Option (Char × Token)) :=
  match c with
  | '\n' => some (.newline, none)
  | '&' => some (.ampersand, some ('&', .both))
  | '|' => some (.pipe, some ('|', .either))
  | ';' => some (.semicolon, some (';', .endArm))
  | '(' => some (.opening, none)
  | ')' => some (.closing, none)
  | _ => none

/-- Passes over the rest of a line. -/
def dropComment : Parse Unit :=
  modify fun r => { r with chars := r.chars.dropWhile (· ≠ '\n') }

/-- Notes a token. -/
def noteToken (t : Token) : Parse Token := do
  modify fun r => { r with last := t }
  return t

/-- Reads a redirection after its descriptor. -/
def readRedirect (fd : Option Nat) : Parse Token := do
  let note (usual : Nat) (kind : RedirectKind) : Parse Token := do
    modify fun r => { r with redirect := (fd.getD usual, kind) }
    noteToken .redirect
  if ← takeIf '>' then
    if ← takeIf '>' then note 1 (.file .append)
    else if ← takeIf '|' then note 1 (.file .overwrite)
    else if ← takeIf '&' then note 1 .duplicate
    else note 1 (.file .write)
  else
    dropChar
    if ← takeIf '<' then
      let strip ← takeIf '-'
      note 0 (.document strip)
    else if ← takeIf '&' then note 0 .duplicate
    else if ← takeIf '>' then note 0 (.file .both)
    else note 0 (.file .read)

/-- The descriptor in front of a redirection, if one begins here. -/
def redirectAhead : Parse (Option (Option Nat)) := do
  match ← peekChar with
  | none => return none
  | some c =>
    if c = '<' || c = '>' then return some none
    else if c.isDigit then
      let r ← get
      let (after, n) := dropJoins r.chars.tail
      if after.head? = some '<' || after.head? = some '>' then
        set { r with chars := after, line := r.line + n }
        return some (some (c.toNat - 48))
      else return none
    else return none

end FlowScript.Programs.Shell
