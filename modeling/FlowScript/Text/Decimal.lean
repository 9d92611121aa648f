import FlowScript.Text.Integer

/-!
# Decimal numbers

Numbers written with a point and an exponent, kept exactly as mantissa and power of ten. They are
only compared with bounds, and the exponents that scripts write may be huge; so a comparison first
looks at where the leading digit stands.
-/

namespace FlowScript.Text

/-- The number `mantissa * 10 ^ exponent`. -/
structure Decimal where
  mantissa : Nat
  exponent : Int
deriving DecidableEq

namespace Decimal

/-- The number of digits of a positive number. -/
def width (n : Nat) : Nat := (Integer.digits n).length

/-- How many digits stand before the point; the number is below ten to this power. -/
def order (d : Decimal) : Int := (width d.mantissa : Int) + d.exponent

/-- Whether the number is at least `bound`. -/
def reaches (d : Decimal) (bound : Nat) : Bool :=
  if d.mantissa = 0 || bound = 0 then bound = 0
  else if d.order > width bound then true
  else if d.order < 1 then false
  else if d.exponent < 0 then d.mantissa ≥ bound * Nat.pow 10 d.exponent.natAbs
  else d.mantissa * Nat.pow 10 d.exponent.natAbs ≥ bound

/-- Whether the number is at most one half to the power `n`. -/
def within (d : Decimal) (n : Nat) : Bool :=
  if d.mantissa = 0 then true
  else if d.order < -(n : Int) then true
  else if d.exponent > 0 then false
  else d.mantissa * Nat.pow 2 n ≤ Nat.pow 10 d.exponent.natAbs

/-- The number with the given digits before and after the point. -/
def ofDigits (whole frac : List Char) (exponent : Int) : Decimal where
  mantissa := (Integer.natOfDigits? (whole ++ frac)).getD 0
  exponent := exponent - frac.length

end Decimal

end FlowScript.Text
