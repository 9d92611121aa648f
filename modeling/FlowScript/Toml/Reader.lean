import FlowScript.Toml.Document
import FlowScript.Toml.Unquoted

/-!
# Reading TOML

A document is read one line statement after the other: a header, a key with its value, or nothing.
Every reader takes something from the front of the text and gives the rest, or refuses.
-/

namespace FlowScript.Toml

/-- A reader takes a value from the front of a text. -/
abbrev Reader (β : Type) := List Char → Option (β × List Char)

/-! ## Characters -/

/-- Blanks within a line. -/
def isWs (c : Char) : Bool := c == ' ' || c == '\t'

/-- Characters that may stand nowhere unescaped; the tab is not one of them. -/
def isControl (c : Char) : Bool :=
  (c.toNat ≤ 0x1F && c ≠ '\t') || c.toNat = 0x7F

/-- Characters of a key without quotes. -/
def isBare (c : Char) : Bool :=
  c.isAlphanum || c == '_' || c == '-'

/-- Characters of a value without quotes. -/
def isValueChar (c : Char) : Bool :=
  isBare c || c == '+' || c == '.' || c == ':'

/-- The text after the blanks at its front. -/
def skipWs (cs : List Char) : List Char := cs.dropWhile isWs

/-- Takes the end of a line from the front of a text. -/
def takeNewline? : List Char → Option (List Char)
  | '\n' :: rest => some rest
  | '\r' :: '\n' :: rest => some rest
  | _ => none

/-! ## Strings -/

/-- The character with the given hexadecimal digits. -/
def charOfHex? (ds : List Char) : Option Char :=
  if ds.all (isDigitIn 16) then
    let n := natInBase 16 ds
    if n.isValidChar then some (Char.ofNat n) else none
  else none

/-- The character that a backslash and one more stand for. -/
def simpleEscape? (c : Char) : Option Char :=
  match c with
  | 'b' => some '\x08'
  | 't' => some '\t'
  | 'n' => some '\n'
  | 'f' => some '\x0c'
  | 'r' => some '\r'
  | 'e' => some '\x1b'
  | '"' => some '"'
  | '\\' => some '\\'
  | _ => none

/-- How many hexadecimal digits follow a backslash and one more character. -/
def hexEscape? (c : Char) : Option Nat :=
  match c with
  | 'x' => some 2
  | 'u' => some 4
  | 'U' => some 8
  | _ => none

/-- What is inside double quotes. `hex` holds the digits of an escape being read and how many are
missing. -/
def basicBody (hex : Option (List Char × Nat)) : Reader (List Char)
  | [] => none
  | c :: rest =>
    match hex with
    | some (ds, 0) | some (ds, 1) => do
      let d ← charOfHex? (ds ++ [c])
      let (body, rest) ← basicBody none rest
      some (d :: body, rest)
    | some (ds, n + 2) => basicBody (some (ds ++ [c], n + 1)) rest
    | none =>
      if c = '"' then some ([], rest)
      else if c = '\\' then
        match rest with
        | [] => none
        | d :: rest =>
          match hexEscape? d, simpleEscape? d with
          | some n, _ => basicBody (some ([], n)) rest
          | none, some e => (basicBody none rest).map fun (body, rest) => (e :: body, rest)
          | none, none => none
      else if isControl c then none
      else (basicBody none rest).map fun (body, rest) => (c :: body, rest)

/-- What is inside single quotes. -/
def literalBody : Reader (List Char)
  | [] => none
  | c :: rest =>
    if c = '\'' then some ([], rest)
    else if isControl c then none
    else (literalBody rest).map fun (body, rest) => (c :: body, rest)

/-- The end of a text in three quotes, of which up to two more may belong to the text. -/
def closing? (q : Char) (cs : List Char) : Option (List Char × List Char) :=
  let n := (cs.takeWhile (· == q)).length
  if n < 3 then none
  else some (List.replicate (min n 5 - 3) q, cs.drop (min n 5))

/-- Whether a line ends here, blanks aside. -/
def atLineEnd (cs : List Char) : Bool :=
  (takeNewline? (skipWs cs)).isSome

/-- What a reader of a text of several lines is in the middle of. -/
inductive MultiState where
  | plain
  /-- After a backslash at the end of a line, where blanks and line ends do not count. -/
  | skipping
  /-- In an escape with the digits so far and how many are missing. -/
  | hex (ds : List Char) (missing : Nat)

/-- Whether a character does not count. -/
def MultiState.skips (st : MultiState) (c : Char) : Bool :=
  match st with
  | .skipping => isWs c || c == '\n' || c == '\r'
  | _ => false

/-- Whether a character may stand in a text of several lines. A carriage return may only stand
before a line feed. -/
def isMultiChar (c : Char) (rest : List Char) : Bool :=
  if c = '\r' then rest.head? = some '\n'
  else c = '\n' || !isControl c

/-- What is inside three double quotes. -/
def multiBasicBody (st : MultiState) : Reader (List Char)
  | [] => none
  | c :: rest =>
    match st with
    | .hex ds (n + 2) => multiBasicBody (.hex (ds ++ [c]) (n + 1)) rest
    | .hex ds _ => do
      let d ← charOfHex? (ds ++ [c])
      let (body, rest) ← multiBasicBody .plain rest
      some (d :: body, rest)
    | st =>
      if !isMultiChar c rest then none
      else if st.skips c then multiBasicBody .skipping rest
      else match closing? '"' (c :: rest) with
        | some ending => some ending
        | none =>
          if c ≠ '\\' then (multiBasicBody .plain rest).map fun (body, rest) => (c :: body, rest)
          else if atLineEnd rest then multiBasicBody .skipping rest
          else match rest with
            | [] => none
            | d :: rest =>
              match hexEscape? d, simpleEscape? d with
              | some n, _ => multiBasicBody (.hex [] n) rest
              | none, some e =>
                (multiBasicBody .plain rest).map fun (body, rest) => (e :: body, rest)
              | none, none => none

/-- What is inside three single quotes. -/
def multiLiteralBody : Reader (List Char)
  | [] => none
  | c :: rest =>
    if !isMultiChar c rest then none
    else match closing? '\'' (c :: rest) with
      | some ending => some ending
      | none => (multiLiteralBody rest).map fun (body, rest) => (c :: body, rest)

/-- The text without a line end at its front. -/
def dropNewline (cs : List Char) : List Char :=
  (takeNewline? cs).getD cs

/-- Reads a string in quotes of any kind. -/
def readString : Reader (List Char)
  | '"' :: '"' :: '"' :: rest => multiBasicBody .plain (dropNewline rest)
  | '"' :: rest => basicBody none rest
  | '\'' :: '\'' :: '\'' :: rest => multiLiteralBody (dropNewline rest)
  | '\'' :: rest => literalBody rest
  | _ => none

/-! ## Keys -/

/-- Reads one part of a key: bare, or in quotes of one line. -/
def readKeyPart : Reader String
  | '"' :: rest => (basicBody none rest).map fun (k, rest) => (String.ofList k, rest)
  | '\'' :: rest => (literalBody rest).map fun (k, rest) => (String.ofList k, rest)
  | cs =>
    let k := cs.takeWhile isBare
    if k.isEmpty then none else some (String.ofList k, cs.dropWhile isBare)

/-- The greatest number of parts of a key, and of lists and tables inside each other. -/
def depthLimit : Nat := 80

/-- Reads the parts of a dotted key: those before the last one, and the last one. -/
def readParts : (fuel : Nat) → Reader (List String × String)
  | 0, _ => none
  | fuel + 1, cs => do
    let (part, rest) ← readKeyPart cs
    match skipWs rest with
    | '.' :: rest =>
      let ((path, key), rest) ← readParts fuel (skipWs rest)
      some ((part :: path, key), rest)
    | rest => some (([], part), rest)

/-- Reads a key. -/
def readKey : Reader (List String × String) :=
  readParts depthLimit

/-! ## Values -/

/-- The text after blanks, line ends and comments. -/
def skipTrivia (inComment : Bool) : List Char → Option (List Char)
  | [] => some []
  | c :: rest =>
    if c = '\n' then skipTrivia false rest
    else if c = '\r' then
      if rest.head? = some '\n' then skipTrivia false rest else none
    else if inComment then
      if isControl c then none else skipTrivia true rest
    else if isWs c then skipTrivia false rest
    else if c = '#' then skipTrivia true rest
    else some (c :: rest)

/-- The text of a value without quotes. A blank between a date and a time belongs to it. -/
def unquotedText (cs : List Char) : List Char × List Char :=
  let first := cs.takeWhile isValueChar
  let rest := cs.dropWhile isValueChar
  match rest with
  | ' ' :: c :: more =>
    if (takeDate? first).any (·.2.isEmpty) && c.isDigit then
      (first ++ ' ' :: (c :: more).takeWhile isValueChar, (c :: more).dropWhile isValueChar)
    else (first, rest)
  | _ => (first, rest)

/-- The value that a text without quotes is. -/
def unquoted? (text : List Char) : Option Node :=
  if text = ['t', 'r', 'u', 'e'] then some (.boolean true)
  else if text = ['f', 'a', 'l', 's', 'e'] then some (.boolean false)
  else if isNumber text then some (.number (String.ofList text))
  else (moment? text).map .moment

/-- Reads a value without quotes. -/
def readUnquoted : Reader Node := fun cs =>
  let (text, rest) := unquotedText cs
  (unquoted? text).map fun v => (v, rest)

/-- Whether a value begins with a quote. -/
def isQuote (c : Char) : Bool := c == '"' || c == '\''

/-- Takes an equal sign with what may stand around it. -/
def readEqual (gap : List Char → Option (List Char)) (cs : List Char) : Option (List Char) := do
  gap (← takeChar? '=' (← gap cs))

mutual

/-- Reads a value; `depth` more lists and tables may stand inside each other. -/
def readValue : (fuel depth : Nat) → Reader Node
  | 0, _, _ => none
  | _, _, [] => none
  | fuel + 1, depth, c :: rest =>
    if isQuote c then
      (readString (c :: rest)).map fun (s, rest) => (.string (String.ofList s), rest)
    else match depth with
      | 0 => if c = '[' || c = '{' then none else readUnquoted (c :: rest)
      | depth + 1 =>
        if c = '[' then
          (readItems fuel depth rest).map fun (items, rest) => (.list items, rest)
        else if c = '{' then
          (readPairs fuel depth [] rest).map fun (t, rest) => (.table .inline t, rest)
        else readUnquoted (c :: rest)

/-- Reads the items of a list up to the closing bracket; a comma may follow the last one. -/
def readItems : (fuel depth : Nat) → Reader (List Node)
  | 0, _, _ => none
  | fuel + 1, depth, cs => do
    match ← skipTrivia false cs with
    | ']' :: rest => some ([], rest)
    | cs =>
      let (item, rest) ← readValue fuel depth cs
      match ← skipTrivia false rest with
      | ']' :: rest => some ([item], rest)
      | ',' :: rest =>
        let (items, rest) ← readItems fuel depth rest
        some (item :: items, rest)
      | _ => none

/-- Reads the pairs of a table in braces up to the closing one; a comma may follow the last one, and
line ends and comments may stand between all but the parts of a key. -/
def readPairs : (fuel depth : Nat) → Table → Reader Table
  | 0, _, _, _ => none
  | fuel + 1, depth, t, cs => do
    match ← skipTrivia false cs with
    | '}' :: rest => some (t, rest)
    | cs =>
      let ((path, key), rest) ← readKey cs
      let (v, rest) ← readValue fuel depth (← readEqual (skipTrivia false) rest)
      let t ← t.addDotted path key v
      match ← skipTrivia false rest with
      | '}' :: rest => some (t, rest)
      | ',' :: rest => readPairs fuel depth t rest
      | _ => none

end

/-! ## Statements -/

/-- A document as far as it has been read, and the path of the table that pairs go to. -/
structure Progress where
  root : Table
  path : List String

namespace Progress

/-- Adds a value to the current table. -/
def addPair (p : Progress) (path : List String) (key : String) (v : Node) : Option Progress := do
  let root ← p.root.change .implied (fun _ t => t.addDotted path key v) .header p.path
  some { p with root := root }

/-- Makes another table the current one. -/
def moveTo (p : Progress) (path : List String) (key : String)
    (opening : String → Table → Option Table) : Option Progress := do
  let root ← p.root.change .implied (fun _ t => opening key t) .header path
  some ⟨root, path ++ [key]⟩

end Progress

/-- Takes the end of a line with a comment that may stand before it. -/
def endLine (inComment : Bool) : List Char → Option (List Char)
  | [] => some []
  | c :: rest =>
    if c = '\n' then some rest
    else if c = '\r' then takeChar? '\n' rest
    else if inComment then
      if isControl c then none else endLine true rest
    else if isWs c then endLine false rest
    else if c = '#' then endLine true rest
    else none

/-- Whether nothing but a comment can stand on a line that begins so. -/
def isBlankLine (cs : List Char) : Bool :=
  match cs.head? with
  | none => true
  | some c => c == '\n' || c == '\r' || c == '#'

/-- Reads what stands on a line: a header, a pair, or nothing. -/
def readStatement (p : Progress) : Reader Progress
  | '[' :: '[' :: rest => do
    let ((path, key), rest) ← readKey (skipWs rest)
    let rest ← takeChar? ']' (skipWs rest)
    let rest ← takeChar? ']' rest
    let p ← p.moveTo path key Table.openElement
    some (p, rest)
  | '[' :: rest => do
    let ((path, key), rest) ← readKey (skipWs rest)
    let rest ← takeChar? ']' (skipWs rest)
    let p ← p.moveTo path key Table.openTable
    some (p, rest)
  | cs =>
    if isBlankLine cs then some (p, cs)
    else do
      let ((path, key), rest) ← readKey cs
      let rest ← readEqual (fun cs => some (skipWs cs)) rest
      let (v, rest) ← readValue (2 * cs.length) depthLimit rest
      let p ← p.addPair path key v
      some (p, rest)

/-- Reads the lines of a document. -/
def readLines : (fuel : Nat) → Progress → List Char → Option Table
  | 0, _, _ => none
  | fuel + 1, p, cs =>
    if cs.isEmpty then some p.root
    else do
      let (p, rest) ← readStatement p (skipWs cs)
      let rest ← endLine false rest
      readLines fuel p rest

/-- The text without the mark of its encoding at the front. -/
def dropMark : List Char → List Char
  | [] => []
  | c :: rest => if c.toNat = 0xFEFF then rest else c :: rest

/-- The table that a text writes. -/
def read? (s : String) : Option Table :=
  let cs := dropMark s.toList
  readLines (cs.length + 1) ⟨[], []⟩ cs

end FlowScript.Toml
