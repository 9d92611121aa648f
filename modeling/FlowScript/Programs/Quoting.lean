import FlowScript.Text.Bytes
import FlowScript.Text.Printable

/-!
# Quoted names

Programs quote the names that they complain about. A name that a shell takes as it stands needs no
quotes; any other is written so that a shell reads it back. All text here is raw, and `utf8` says
that it is taken as text in UTF-8.
-/

namespace FlowScript.Programs.Quoting

/-- A part of a name: what can be shown as it stands, or a byte that cannot. -/
inductive Piece where
  | shown (cs : List Char)
  | hidden (c : Char)

/-- The first part of a name that begins with a character, and how long it is. -/
def firstPiece (utf8 : Bool) (c : Char) (cs : List Char) : Piece × Nat :=
  if ' ' ≤ c && c ≤ '~' then (.shown [c], 1)
  else match (if utf8 then Text.firstChar? (c :: cs) else none) with
    | some (d, n) =>
      if n > 1 && Text.isPrintable d then (.shown ((c :: cs).take n), n) else (.hidden c, 1)
    | none => (.hidden c, 1)

/-- The parts of a name. A character of several bytes that cannot be shown is hidden byte by byte,
as none of its later bytes begins a character. -/
def pieces (utf8 : Bool) : (fuel : Nat) → List Char → List Piece
  | 0, _ => []
  | _, [] => []
  | fuel + 1, c :: cs =>
    let (piece, n) := firstPiece utf8 c cs
    piece :: pieces utf8 fuel ((c :: cs).drop n)

/-- The parts of a name. -/
def piecesOf (utf8 : Bool) (s : String) : List Piece := pieces utf8 s.length s.toList

/-- The letter that stands for a control character after a backslash. -/
def letter? (c : Char) : Option Char :=
  match c with
  | '\x07' => some 'a'
  | '\x08' => some 'b'
  | '\x0c' => some 'f'
  | '\n' => some 'n'
  | '\r' => some 'r'
  | '\t' => some 't'
  | '\x0b' => some 'v'
  | _ => none

/-- A byte as a backslash and a letter or three octal digits. -/
def escaped (c : Char) : List Char :=
  match letter? c with
  | some l => ['\\', l]
  | none =>
    let digit (n : Nat) : Char := Char.ofNat (48 + n % 8)
    ['\\', digit (c.toNat / 64), digit (c.toNat / 8), digit c.toNat]

/-- Whether a part of a name means something to a shell wherever it stands. -/
def isMeant : Piece → Bool
  | .shown [c] => " !\"$&()*;<=>?[^|'\\\x60".toList.contains c
  | .shown _ => false
  | .hidden _ => true

/-- Whether a name is written without quotes. -/
def isPlain (utf8 : Bool) (s : String) : Bool :=
  match s.toList with
  | [] | ['\x7b'] | ['\x7d'] => false
  | c :: _ => c ≠ '#' && c ≠ '~' && !(piecesOf utf8 s).any isMeant

/-- The inside of a name in single quotes. `escape` says whether an escape is being written. -/
def inside : (escape : Bool) → List Piece → List Char
  | _, [] => []
  | escape, .hidden c :: rest =>
    (if escape then [] else ['\'', '$', '\'']) ++ escaped c ++ inside true rest
  | _, .shown ['\''] :: rest => ['\'', '\\', '\'', '\''] ++ inside false rest
  | escape, .shown cs :: rest =>
    (if escape then ['\'', '\''] else []) ++ cs ++ inside false rest

/-- Whether a name with a single quote can stand in double quotes. -/
def fitsDouble (utf8 : Bool) (s : String) : Bool :=
  let fits : Piece → Bool
    | .shown [c] => !("!\"#$&()*;<=>?[\\^\x60\x7b|\x7d~".toList.contains c)
    | .shown _ => true
    | .hidden _ => false
  -- at the beginning two characters mean something to a shell only without quotes
  let ps := if ['#', '~'].any (s.toList.head? = some ·) then (piecesOf utf8 s).drop 1
    else piecesOf utf8 s
  s.toList.contains '\'' && ps.all fits

/-- A name as a shell reads it back. -/
def word (utf8 : Bool) (s : String) : String :=
  if isPlain utf8 s then s
  else if fitsDouble utf8 s then "\"" ++ s ++ "\""
  else
    let ps := piecesOf utf8 s
    -- a name with a single quote is gone through twice, and an escape at its end is not forgotten
    let escape : Bool := s.toList.contains '\'' && (match ps.getLast? with
      | some (.hidden _) => true
      | _ => false)
    String.ofList ('\'' :: inside escape ps ++ ['\''])

/-- The name of a file in a complaint, where a colon is quoted as well. -/
def file (utf8 : Bool) (s : String) : String :=
  if s.toList.contains ':' && isPlain utf8 s then "'" ++ s ++ "'" else word utf8 s

/-- The quotes around an argument in a complaint. -/
def marks (utf8 : Bool) : String × String :=
  if utf8 then (Text.toRaw "‘", Text.toRaw "’") else ("'", "'")

/-- An argument in a complaint. -/
def argument (utf8 : Bool) (s : String) : String :=
  let (left, right) := marks utf8
  let written : Piece → List Char
    | .hidden c => escaped c
    | .shown cs => if cs = ['\\'] || cs = right.toList then '\\' :: cs else cs
  left ++ String.ofList ((piecesOf utf8 s).flatMap written) ++ right

end FlowScript.Programs.Quoting
