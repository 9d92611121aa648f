import FlowScript.Text.Number

/-!
# Lengths of time

A length of time is a number of seconds, neither negative nor too big for a counter of 64 bits.
Seconds are numbers of double precision: one so small that it is no different from zero is not
negative, and one that rounds to the bound is too big.
-/

namespace FlowScript.Builtin

open FlowScript.Text (Decimal Number)

/-- Why a number of seconds is no length of time. -/
inductive DurationError where
  | negative
  | tooBig
deriving DecidableEq

/-- The text shown for an error. -/
def DurationError.message : DurationError → String
  | negative => "cannot convert float seconds to Duration: value is negative"
  | tooBig => "cannot convert float seconds to Duration: value is either too big or NaN"

/-- The least number that rounds to the bound of `2 ^ 64` seconds: numbers just below the bound are
2048 apart, and a tie goes to the bound. -/
def durationBound : Nat := Nat.pow 2 64 - 1024

/-- Half the least positive number is one half to this power; what does not exceed it rounds to
zero. -/
def smallestExponent : Nat := 1075

/-- The length of time that a number of seconds is. -/
def duration : Number → Except DurationError Decimal
  | .finite true d => if d.within smallestExponent then .ok ⟨0, 0⟩ else .error .negative
  | .finite false d => if d.reaches durationBound then .error .tooBig else .ok d
  | .infinite true => .error .negative
  | .infinite false => .error .tooBig
  | .nan => .error .tooBig

end FlowScript.Builtin
