import FlowScript.Text.Decimal

/-!
# Numbers as text

A number is written with an optional sign, digits that may hold a point, and an optional exponent;
or it is one of the words for infinity and for no number, in either case. There is at least one
digit, before or after the point.
-/

namespace FlowScript.Text

/-- A number with its sign. -/
inductive Number where
  | finite (negative : Bool) (size : Decimal)
  | infinite (negative : Bool)
  | nan
deriving DecidableEq

/-- Why a text writes no number. -/
inductive NumberError where
  | empty
  | malformed
deriving DecidableEq

/-- The text shown for an error. -/
def NumberError.message : NumberError → String
  | empty => "cannot parse float from empty string"
  | malformed => "invalid float literal"

namespace Number

/-- The exponent that the characters after the digits write; none is zero. -/
def exponent? : List Char → Option Int
  | [] => some 0
  | c :: rest => if c = 'e' || c = 'E' then Integer.ofChars? rest else none

/-- The size that digits, point and exponent write. -/
def size? (cs : List Char) : Option Decimal :=
  let whole := cs.takeWhile Char.isDigit
  let rest := cs.dropWhile Char.isDigit
  let (frac, rest) := match rest with
    | '.' :: rest => (rest.takeWhile Char.isDigit, rest.dropWhile Char.isDigit)
    | rest => ([], rest)
  -- a point alone is no number
  if whole.isEmpty && frac.isEmpty then none
  else (exponent? rest).map (Decimal.ofDigits whole frac)

/-- The number without a sign that the characters write; `negative` is the sign before them. -/
def unsigned? (negative : Bool) (cs : List Char) : Option Number :=
  match size? cs with
  | some d => some (.finite negative d)
  | none =>
    match String.ofList (cs.map Char.toLower) with
    | "inf" | "infinity" => some (.infinite negative)
    | "nan" => some .nan
    | _ => none

/-- The number that the characters write. -/
def ofChars? : List Char → Option Number
  | '-' :: rest => unsigned? true rest
  | '+' :: rest => unsigned? false rest
  | cs => unsigned? false cs

/-- The number that a text writes. -/
def read (s : String) : Except NumberError Number :=
  if s.isEmpty then .error .empty
  else match ofChars? s.toList with
    | some n => .ok n
    | none => .error .malformed

end Number

end FlowScript.Text
