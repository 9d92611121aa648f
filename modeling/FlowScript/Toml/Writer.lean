import FlowScript.Dict
import FlowScript.Text.Cut

/-!
# Writing TOML

Texts under keys are written as one table, a line for each pair in key order. Keys and values take
the plainest quotes that hold them: a text is only escaped where no raw form fits.
-/

namespace FlowScript.Toml

/-! ## Character tests -/

/-- Characters that have to be escaped everywhere. -/
def isRawControl (c : Char) : Bool :=
  (c.toNat ≤ 0x1F || c.toNat = 0x7F) && c ≠ '\t' && c ≠ '\n'

/-- Whether no run of a character in a text is longer than two. `run` counts the run so far. -/
def runsAtMostTwo (q : Char) (run : Nat) : List Char → Bool
  | [] => true
  | c :: rest =>
    if c = q then run < 2 && runsAtMostTwo q (run + 1) rest
    else runsAtMostTwo q 0 rest

/-! ## Escapes -/

/-- A hexadecimal digit, in upper case. -/
def hexDigit (n : Nat) : Char :=
  if n < 10 then Char.ofNat (48 + n) else Char.ofNat (55 + n)

/-- Four hexadecimal digits. -/
def hexQuad (n : Nat) : List Char :=
  [hexDigit (n / 4096 % 16), hexDigit (n / 256 % 16), hexDigit (n / 16 % 16), hexDigit (n % 16)]

/-- What a character other than a quote or a line feed is written as between double quotes. -/
def escapeChar (c : Char) : List Char :=
  if c = '\x08' then ['\\', 'b']
  else if c = '\t' then ['\\', 't']
  else if c = '\x0c' then ['\\', 'f']
  else if c = '\r' then ['\\', 'r']
  else if c = '\\' then ['\\', '\\']
  else if isRawControl c then ['\\', 'u'] ++ hexQuad c.toNat
  else [c]

/-- What a text is written as between double quotes. -/
def escapeLine (cs : List Char) : List Char :=
  cs.flatMap fun c =>
    if c = '"' then ['\\', '"']
    else if c = '\n' then ['\\', 'n']
    else escapeChar c

/-- What a text is written as between three double quotes: every third quote in a row is escaped.
`run` counts the quotes directly before. -/
def escapeLines (run : Nat) : List Char → List Char
  | [] => []
  | c :: rest =>
    if c = '"' then
      if run < 2 then '"' :: escapeLines (run + 1) rest
      else '\\' :: '"' :: escapeLines 0 rest
    else if c = '\n' then '\n' :: escapeLines 0 rest
    else escapeChar c ++ escapeLines 0 rest

/-! ## Keys and values -/

/-- A text between quotes. -/
def enclose (quote : List Char) (body : List Char) : List Char :=
  quote ++ body ++ quote

/-- A text between three quotes. If it has a line feed its first line gets a line of its own. -/
def encloseLines (q : Char) (cs body : List Char) : List Char :=
  enclose [q, q, q] (if cs.contains '\n' then '\n' :: body else body)

/-- A key as it is written. -/
def writeKey (cs : List Char) : List Char :=
  let isBare (c : Char) := c.isAlphanum || c == '_' || c == '-'
  let isPlain := !cs.any fun c => isRawControl c || c == '\n'
  if !cs.isEmpty && cs.all isBare then cs
  else if isPlain && !cs.contains '\\' && !cs.contains '"' then enclose ['"'] (escapeLine cs)
  else if isPlain && !cs.contains '\'' then enclose ['\''] cs
  else enclose ['"'] (escapeLine cs)

/-- A value as it is written. -/
def writeValue (cs : List Char) : List Char :=
  let isPlain := !cs.any isRawControl
  let isOneLine := !cs.contains '\n'
  if isPlain && isOneLine && !cs.contains '\\' && !cs.contains '"' then
    enclose ['"'] (escapeLine cs)
  else if isPlain && isOneLine && !cs.contains '\'' then
    enclose ['\''] cs
  else if isPlain && !cs.contains '\\' && runsAtMostTwo '"' 0 cs then
    encloseLines '"' cs (escapeLines 0 cs)
  else if isPlain && runsAtMostTwo '\'' 0 cs then
    encloseLines '\'' cs cs
  else if isOneLine then
    enclose ['"'] (escapeLine cs)
  else
    encloseLines '"' cs (escapeLines 0 cs)

/-- The line of a pair. -/
def writePair (key value : String) : String :=
  String.ofList (writeKey key.toList ++ [' ', '=', ' '] ++ writeValue value.toList ++ ['\n'])

/-- The table of some texts under a header. -/
def writeTable (header : String) (d : Dict String) : String :=
  "[" ++ header ++ "]\n" ++ String.join (d.entries.map fun (k, v) => writePair k v)

end FlowScript.Toml
