import FlowScript.Text.Blank

/-!
# Integers as text

Counters are kept as text. They are read as an optional sign and decimal digits and written
without a plus sign or leading zeros. Only integers of 64 bits, sign included, are counters.
-/

namespace FlowScript.Text.Integer

/-- The least counter. -/
def least : Int := -9223372036854775808

/-- The greatest counter. -/
def greatest : Int := 9223372036854775807

/-- Whether an integer is a counter. -/
def fits (n : Int) : Bool :=
  least ≤ n && n ≤ greatest

/-! ## Writing -/

/-- The decimal digit for a number below ten. -/
def digit (n : Nat) : Char :=
  Char.ofNat (48 + n)

/-- The decimal digits of a number, the greatest weight first. -/
def digits (n : Nat) : List Char :=
  if n < 10 then [digit n] else digits (n / 10) ++ [digit (n % 10)]

/-- The text of an integer. -/
def write (n : Int) : String :=
  if n < 0 then String.ofList ('-' :: digits n.natAbs) else String.ofList (digits n.natAbs)

/-! ## Reading -/

/-- The number that a run of decimal digits writes; there is at least one digit. -/
def natOfDigits? (cs : List Char) : Option Nat :=
  if cs.isEmpty || !cs.all Char.isDigit then none
  else some (cs.foldl (fun n c => 10 * n + (c.toNat - 48)) 0)

/-- The integer that the characters write: at most one sign, then digits. -/
def ofChars? : List Char → Option Int
  | '-' :: rest => (natOfDigits? rest).map fun n => -(n : Int)
  | '+' :: rest => (natOfDigits? rest).map fun n => (n : Int)
  | cs => (natOfDigits? cs).map fun n => (n : Int)

/-- The counter that a text writes, blanks around it left aside. -/
def read? (s : String) : Option Int :=
  (ofChars? (trimChars s.toList)).filter fits

end FlowScript.Text.Integer
