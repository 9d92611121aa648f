/-!
# Shell words

A line of text is split into words the way a shell does it: at spaces, tabs and line feeds, with
quotes, backslashes and comments. Single quotes keep everything; inside double quotes a backslash
only counts before `$`, a backquote, `"`, a backslash and a line feed.
-/

namespace FlowScript.Text.ShellWords

/-- What a character is part of. -/
inductive State where
  /-- Between words. -/
  | between
  /-- In a comment. -/
  | comment
  /-- In a word, outside quotes. -/
  | word
  /-- Inside single quotes. -/
  | single
  /-- Inside double quotes. -/
  | double

/-- Whether a character ends a word. -/
def isGap (c : Char) : Bool :=
  c == ' ' || c == '\t' || c == '\n'

/-- Whether a backslash inside double quotes stands for the character after it. -/
def isQuotable (c : Char) : Bool :=
  c == '$' || c.toNat == 0x60 || c == '"' || c == '\\'

/-- The words of the rest of a line. `word` holds the characters of the current word so far,
backwards. There are none if a quote is not closed or a backslash ends the line. -/
def scan : State → (word : List Char) → List Char → Option (List String)
  | .between, _, [] => some []
  | .between, _, '\\' :: c :: rest => scan .word (if c = '\n' then [] else [c]) rest
  | .between, _, c :: rest =>
    if isGap c then scan .between [] rest
    else if c = '#' then scan .comment [] rest
    else if c = '\'' then scan .single [] rest
    else if c = '"' then scan .double [] rest
    else if c = '\\' then none
    else scan .word [c] rest
  | .comment, _, [] => some []
  | .comment, _, c :: rest => if c = '\n' then scan .between [] rest else scan .comment [] rest
  | .word, word, [] => some [String.ofList word.reverse]
  | .word, word, '\\' :: c :: rest => scan .word (if c = '\n' then word else c :: word) rest
  | .word, word, c :: rest =>
    if isGap c then (scan .between [] rest).map (String.ofList word.reverse :: ·)
    else if c = '\'' then scan .single word rest
    else if c = '"' then scan .double word rest
    else if c = '\\' then none
    else scan .word (c :: word) rest
  | .single, _, [] => none
  | .single, word, c :: rest =>
    if c = '\'' then scan .word word rest else scan .single (c :: word) rest
  | .double, _, [] => none
  | .double, word, '\\' :: c :: rest =>
    if isQuotable c then scan .double (c :: word) rest
    else if c = '\n' then scan .double word rest
    else scan .double (c :: '\\' :: word) rest
  | .double, word, c :: rest =>
    if c = '"' then scan .word word rest
    else if c = '\\' then none
    else scan .double (c :: word) rest

/-- The words of a line, if all its quotes are closed. -/
def split? (s : String) : Option (List String) :=
  scan .between [] s.toList

end FlowScript.Text.ShellWords
