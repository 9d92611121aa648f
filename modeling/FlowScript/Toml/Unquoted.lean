import FlowScript.Text.Decimal

/-!
# Numbers

Which texts without quotes are numbers: integers in four bases and decimal numbers. Nothing in this
library computes with them; what matters is that anything else is refused.
-/

namespace FlowScript.Toml

open FlowScript.Text (Decimal Integer.natOfDigits?)

/-! ## Digits -/

/-- The digits of a text in which single underscores may stand between digits. -/
def digitsOf? (isDigit : Char → Bool) (cs : List Char) : Option (List Char) :=
  let groups := cs.splitOnP (· == '_')
  if groups.all fun g => !g.isEmpty && g.all isDigit then some groups.flatten else none

/-- Whether a character is a digit in a base up to sixteen. -/
def isDigitIn (base : Nat) (c : Char) : Bool :=
  match hexValue? c with
  | some n => n < base
  | none => false
where
  /-- The value of a hexadecimal digit. -/
  hexValue? (c : Char) : Option Nat :=
    if c.isDigit then some (c.toNat - 48)
    else if 'a' ≤ c && c ≤ 'f' then some (c.toNat - 87)
    else if 'A' ≤ c && c ≤ 'F' then some (c.toNat - 55)
    else none

/-- The number that digits in a base write. -/
def natInBase (base : Nat) (cs : List Char) : Nat :=
  cs.foldl (fun n c => base * n + (isDigitIn.hexValue? c).getD 0) 0

/-- The digits of a whole number without needless zeros in front. -/
def wholeDigits? (cs : List Char) : Option (List Char) := do
  let ds ← digitsOf? Char.isDigit cs
  if ds.length > 1 && ds.head? = some '0' then none else some ds

/-- Separates the sign from the rest; whether it is a minus comes first. -/
def splitSign : List Char → Bool × List Char
  | '-' :: rest => (true, rest)
  | '+' :: rest => (false, rest)
  | cs => (false, cs)

/-! ## Numbers -/

/-- Whether a text is an integer of at most 128 bits. -/
def isInteger : List Char → Bool
  | '0' :: 'x' :: rest => isBased 16 rest
  | '0' :: 'o' :: rest => isBased 8 rest
  | '0' :: 'b' :: rest => isBased 2 rest
  | cs =>
    let (negative, body) := splitSign cs
    match wholeDigits? body with
    | none => false
    | some ds =>
      let n := natInBase 10 ds
      if negative then n ≤ Nat.pow 2 127 else n < Nat.pow 2 128
where
  /-- Whether digits in a base write an integer of at most 128 bits. -/
  isBased (base : Nat) (cs : List Char) : Bool :=
    match digitsOf? (isDigitIn base) cs with
    | some ds => natInBase base ds < Nat.pow 2 128
    | none => false

/-- The exponent after the mark for it. -/
def exponent? (cs : List Char) : Option Int := do
  let (negative, body) := splitSign cs
  let ds ← digitsOf? Char.isDigit body
  let n : Int := natInBase 10 ds
  some (if negative then -n else n)

/-- The decimal number without its sign that a text writes: with a point, an exponent or both. -/
def decimal? (cs : List Char) : Option Decimal := do
  let isMark (c : Char) := c == 'e' || c == 'E'
  let mantissa := cs.takeWhile (!isMark ·)
  let marked := cs.dropWhile (!isMark ·)
  let whole := mantissa.takeWhile (· != '.')
  let pointed := mantissa.dropWhile (· != '.')
  if marked.isEmpty && pointed.isEmpty then none
  else
    let wholeDigits ← wholeDigits? whole
    let fracDigits ← if pointed.isEmpty then some [] else digitsOf? Char.isDigit pointed.tail
    let exponent ← if marked.isEmpty then some 0 else exponent? marked.tail
    some (.ofDigits wholeDigits fracDigits exponent)

/-- The least number that no double can hold; everything from here on rounds to infinity. -/
def overflowBound : Nat := Nat.pow 2 1024 - Nat.pow 2 970

/-- Whether a text is a decimal number that a double can hold, or one of the special ones. -/
def isDecimal (cs : List Char) : Bool :=
  let body := (splitSign cs).2
  body = ['i', 'n', 'f'] || body = ['n', 'a', 'n'] ||
    (decimal? body).any fun d => !d.reaches overflowBound

/-- Whether a text without quotes is a number. -/
def isNumber (cs : List Char) : Bool :=
  isInteger cs || isDecimal cs

end FlowScript.Toml
