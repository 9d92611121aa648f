import FlowScript.Text.Integer

/-!
# Real numbers in programs

Programs compute with numbers of a mantissa of limited length and a power of two. They are read from
decimal text to the nearest such number and shown exactly, rounded to the digits asked for. Ties go
to the even neighbour.
-/

namespace FlowScript.Programs

/-- A number that a program computes with: the sign, and `mantissa * 2 ^ exponent`. -/
inductive Real where
  | finite (negative : Bool) (mantissa : Nat) (exponent : Int)
  | infinite (negative : Bool)
  | nan (negative : Bool)
deriving DecidableEq

namespace Real

/-- The quotient of two numbers to the nearest integer. -/
def divide (a b : Nat) : Nat :=
  let q := a / b
  let r := a % b
  if 2 * r > b || (2 * r = b && q % 2 = 1) then q + 1 else q

/-- Which numbers there are: how many bits a mantissa has, the exponent of the last bit of the
smallest number, and the power of two that no number reaches. -/
structure Format where
  bits : Nat
  least : Int
  top : Int

/-- The numbers that a shell computes with. -/
def double : Format := ⟨53, -1074, 1024⟩

/-- The numbers that programs compute with. -/
def extended : Format := ⟨64, -16445, 16384⟩

/-- The number nearest to a fraction, and whether it is in range: neither too large, nor too small
to have all its bits. -/
def ofFraction (f : Format) (negative : Bool) (num den : Nat) : Real × Bool :=
  if num = 0 then (.finite negative 0 0, true)
  else
    let guess : Int := (num.log2 : Int) - den.log2 - f.bits + 1
    let scaled (e : Int) : Nat × Nat :=
      if e < 0 then (num * Nat.pow 2 e.natAbs, den) else (num, den * Nat.pow 2 e.natAbs)
    let mantissa (e : Int) : Nat := divide (scaled e).1 (scaled e).2
    -- the quotient may be one bit short
    let isShort := (scaled guess).1 < Nat.pow 2 (f.bits - 1) * (scaled guess).2
    let free := if isShort then guess - 1 else guess
    let e := if free < f.least then f.least else free
    -- rounding may carry into another bit
    let (m, e) := if mantissa e = Nat.pow 2 f.bits then (mantissa e / 2, e + 1) else (mantissa e, e)
    let isTiny := free < f.least &&
      (free < f.least - 1 || mantissa free < Nat.pow 2 f.bits)
    if (m.log2 : Int) + e ≥ f.top then (.infinite negative, false)
    else (.finite negative m e, !(isTiny && (scaled e).1 % (scaled e).2 ≠ 0))

/-- The number nearest to `digits * 10 ^ exponent`, and whether it is in range. -/
def ofDecimal (f : Format) (negative : Bool) (digits : Nat) (exponent : Int) : Real × Bool :=
  let order := exponent + (toString digits).length
  if digits = 0 then (.finite negative 0 0, true)
  else if order > f.top then (.infinite negative, false)
  else if order < f.least then (.finite negative 0 0, false)
  else if exponent < 0 then ofFraction f negative digits (Nat.pow 10 exponent.natAbs)
  else ofFraction f negative (digits * Nat.pow 10 exponent.natAbs) 1

/-- The number nearest to `n * 2 ^ exponent`, and whether it is in range. -/
def ofBinary (f : Format) (negative : Bool) (n : Nat) (exponent : Int) : Real × Bool :=
  let order := exponent + n.log2
  if n = 0 then (.finite negative 0 0, true)
  else if order > f.top then (.infinite negative, false)
  else if order < f.least - 2 then (.finite negative 0 0, false)
  else if exponent < 0 then ofFraction f negative n (Nat.pow 2 exponent.natAbs)
  else ofFraction f negative (n * Nat.pow 2 exponent.natAbs) 1

/-! ## Reading -/

/-- The exponent at the front of a text after its letter, if there is one. -/
def exponentAt (letters : List Char) (cs : List Char) : Int × List Char :=
  let none : Int × List Char := (0, cs)
  match cs with
  | c :: rest =>
    if letters.contains c then
      let (negative, rest) := match rest with
        | '-' :: rest => (true, rest)
        | '+' :: rest => (false, rest)
        | rest => (false, rest)
      match Text.Integer.natOfDigits? (rest.takeWhile Char.isDigit) with
      | some n => ((if negative then -(n : Int) else n), rest.dropWhile Char.isDigit)
      | Option.none => none
    else none
  | [] => none

/-- The value of a digit in a base up to sixteen. -/
def digitValue (c : Char) : Nat :=
  if c.isDigit then c.toNat - 48 else c.toLower.toNat - 87

/-- Whether a character is a hexadecimal digit. -/
def isHexDigit (c : Char) : Bool :=
  c.isDigit || ('a' ≤ c && c ≤ 'f') || ('A' ≤ c && c ≤ 'F')

/-- The number that digits in a base write. -/
def natIn (base : Nat) (ds : List Char) : Nat :=
  ds.foldl (fun n c => base * n + digitValue c) 0

/-- The digits before and after a point at the front of a text, and what follows. -/
def pointed (isDigit : Char → Bool) (cs : List Char) : List Char × List Char × List Char :=
  let whole := cs.takeWhile isDigit
  match cs.dropWhile isDigit with
  | '.' :: rest =>
    let frac := rest.takeWhile isDigit
    if whole.isEmpty && frac.isEmpty then ([], [], cs) else (whole, frac, rest.dropWhile isDigit)
  | rest => (whole, [], rest)

/-- Whether a text begins with a word, in either case. -/
def beginsWith (word : String) (cs : List Char) : Bool :=
  word.toList.isPrefixOf (cs.map Char.toLower)

/-- What follows the word for no number: a note in brackets belongs to it. -/
def afterNan (cs : List Char) : List Char :=
  match cs with
  | '(' :: rest =>
    let isNote (c : Char) : Bool := c.isAlphanum || c = '_'
    match rest.dropWhile isNote with
    | ')' :: rest => rest
    | _ => cs
  | _ => cs

/-- The number at the front of a text, whether it is in range, and what follows; nothing if there is
none. -/
def read? (f : Format) (cs : List Char) : Option (Real × Bool × List Char) :=
  let blank (c : Char) : Bool := [' ', '\t', '\n', '\x0b', '\x0c', '\r'].contains c
  let cs := cs.dropWhile blank
  let (negative, cs) := match cs with
    | '-' :: rest => (true, rest)
    | '+' :: rest => (false, rest)
    | cs => (false, cs)
  if beginsWith "infinity" cs then some (.infinite negative, true, cs.drop 8)
  else if beginsWith "inf" cs then some (.infinite negative, true, cs.drop 3)
  else if beginsWith "nan" cs then some (.nan negative, true, afterNan (cs.drop 3))
  else if beginsWith "0x" cs && (cs.drop 2).head?.any (fun c => isHexDigit c || c = '.') then
    let (whole, frac, rest) := pointed isHexDigit (cs.drop 2)
    if whole.isEmpty && frac.isEmpty then some (.finite negative 0 0, true, cs.drop 1)
    else
      let (e, rest) := exponentAt ['p', 'P'] rest
      let (r, inRange) := ofBinary f negative (natIn 16 (whole ++ frac)) (e - 4 * frac.length)
      some (r, inRange, rest)
  else
    let (whole, frac, rest) := pointed Char.isDigit cs
    if whole.isEmpty && frac.isEmpty then none
    else
      let (e, rest) := exponentAt ['e', 'E'] rest
      let (r, inRange) := ofDecimal f negative (natIn 10 (whole ++ frac)) (e - frac.length)
      some (r, inRange, rest)

/-! ## Showing -/

/-- A size times a power of ten, to the nearest integer. -/
def scaled (mantissa : Nat) (exponent : Int) (tens : Int) : Nat :=
  let num := mantissa * Nat.pow 2 exponent.toNat * Nat.pow 10 tens.toNat
  divide num (Nat.pow 2 (-exponent).toNat * Nat.pow 10 (-tens).toNat)

/-- The power of ten of the leading digit of a size. -/
def order (mantissa : Nat) (exponent : Int) : Int :=
  if mantissa = 0 then 0
  else
    let num := mantissa * Nat.pow 2 exponent.toNat
    let den := Nat.pow 2 (-exponent).toNat
    if num ≥ den then ((toString (num / den)).length : Int) - 1
    else
      -- as many tens as bring the size to one or more
      let shift := (toString (den / num)).length
      if num * Nat.pow 10 shift < den then -(shift : Int) - 1
      else if num * Nat.pow 10 (shift - 1) ≥ den then -(shift : Int) + 1
      else -(shift : Int)

/-- Digits with a point before the last `places`. -/
def withPoint (always : Bool) (places n : Nat) : List Char :=
  let digits := (toString n).toList
  let digits := List.replicate (places + 1 - digits.length) '0' ++ digits
  let whole := digits.take (digits.length - places)
  if places = 0 then if always then whole ++ ['.'] else whole
  else whole ++ '.' :: digits.drop (digits.length - places)

/-- A size with some digits after the point. -/
def fixed (always : Bool) (places mantissa : Nat) (exponent : Int) : List Char :=
  withPoint always places (scaled mantissa exponent places)

/-- A size with one digit before the point, some after it, and a power of ten: the digits and the
power. -/
def leading (places mantissa : Nat) (exponent : Int) : Nat × Int :=
  let x := order mantissa exponent
  let n := scaled mantissa exponent ((places : Int) - x)
  -- rounding may carry into another digit
  if n ≥ Nat.pow 10 (places + 1) then (n / 10, x + 1) else (n, x)

/-- A size in the form with an exponent. -/
def scientific (always : Bool) (places mantissa : Nat) (exponent : Int) : List Char :=
  let (n, x) := leading places mantissa exponent
  let digits := (toString x.natAbs).toList
  withPoint always places n ++ ['e', if x < 0 then '-' else '+'] ++
    List.replicate (2 - digits.length) '0' ++ digits

/-- Digits without zeros at the end behind a point. -/
def dropZeros (cs : List Char) : List Char :=
  let mantissa := cs.takeWhile (· ≠ 'e')
  let tail := cs.drop mantissa.length
  if mantissa.contains '.' then
    let back := mantissa.reverse.dropWhile (· == '0')
    (if back.head? = some '.' then back.tail else back).reverse ++ tail
  else cs

/-- A size in whichever form is shorter, with some digits in all. -/
def general (always : Bool) (digits mantissa : Nat) (exponent : Int) : List Char :=
  let digits := if digits = 0 then 1 else digits
  let (_, x) := leading (digits - 1) mantissa exponent
  let cs :=
    -- digits that rounding has carried away are not shown again
    if x = digits && order mantissa exponent < x then scientific always 0 mantissa exponent
    else if -4 ≤ x && x < digits then fixed always ((digits : Int) - 1 - x).toNat mantissa exponent
    else scientific always (digits - 1) mantissa exponent
  if always then cs else dropZeros cs

/-- A size in hexadecimal digits with a power of two. `leads` says how many bits stand before the
point. -/
def hexadecimal (f : Format) (leads : Nat) (always : Bool) (places : Option Nat) (mantissa : Nat)
    (exponent : Int) : List Char :=
  -- all bits of the mantissa, those behind the point in whole digits
  let short : Int := exponent - f.least
  let missing := f.bits - 1 - mantissa.log2
  let shift := if mantissa = 0 then 0 else Nat.min missing short.toNat
  let behind := (f.bits - leads + 3) / 4
  let padding := 4 * behind - (f.bits - leads)
  let m := mantissa * Nat.pow 2 (shift + padding)
  let e := if mantissa = 0 then 0 else exponent - shift + (f.bits - leads : Nat)
  let (n, digits) := match places with
    | some p => if p < behind then (divide m (Nat.pow 16 (behind - p)), p)
      else (m * Nat.pow 16 (p - behind), p)
    | none => (m, behind)
  let whole := n / Nat.pow 16 digits
  -- rounding may carry into another digit before the point
  let (whole, e) := if whole ≥ 16 then (whole / 16, e + 4) else (whole, e)
  let tail := Nat.toDigits 16 (n % Nat.pow 16 digits)
  let tail := List.replicate (digits - tail.length) '0' ++ (if digits = 0 then [] else tail)
  let tail := if places.isNone then (tail.reverse.dropWhile (· == '0')).reverse else tail
  let point := if always || !tail.isEmpty then ['.'] else []
  Nat.toDigits 16 whole ++ point ++ tail ++ ['p', if e < 0 then '-' else '+'] ++
    Nat.toDigits 10 e.natAbs

/-- Whether a number is below zero, or a zero with a sign. -/
def isNegative : Real → Bool
  | finite negative _ _ => negative
  | infinite negative => negative
  | nan negative => negative

/-- Whether a number has digits. -/
def isFinite : Real → Bool
  | finite _ _ _ => true
  | _ => false

/-- A number without its sign in the form that a letter asks for. -/
def text (f : Format) (letter : Char) (always : Bool) (precision : Option Nat) (r : Real) :
    List Char :=
  let cs := match r with
    | infinite _ => ['i', 'n', 'f']
    | nan _ => ['n', 'a', 'n']
    | finite _ m e =>
      match letter.toLower with
      | 'a' => hexadecimal f (if f.bits % 4 = 0 then 4 else 1) always precision m e
      | 'e' => scientific always (precision.getD 6) m e
      | 'g' => general always (precision.getD 6) m e
      | _ => fixed always (precision.getD 6) m e
  if letter.isUpper then cs.map Char.toUpper else cs

end Real

end FlowScript.Programs
