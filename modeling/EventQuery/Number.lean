import EventQuery.Decimal.Layout

/-!
# Numbers

A number keeps the class in which it was written: a whole number of 64 bits,
or a binary64 number.  The two classes are never equal to one another.
-/

namespace EventQuery

open EventQuery.Decimal

/-- A number together with its class. -/
inductive Number where
  | integer (value : Int64)
  | float (value : Binary64)
deriving DecidableEq

namespace Number

/-- The whole number of 64 bits with the given value, if there is one. -/
def ofInt? (value : Int) : Option Number :=
  if bounds : Int64.minValue.toInt ≤ value ∧ value ≤ Int64.maxValue.toInt then
    some (integer (Int64.ofIntLE value bounds.1 bounds.2))
  else
    none

/-- The number with the other sign; the least whole number has no opposite. -/
def negate? : Number → Option Number
  | integer value => ofInt? (-value.toInt)
  | float value => some (float value.negate)

/-- The binary64 number nearest to the number. -/
def toBinary64 : Number → Binary64
  | integer value => Binary64.ofInt value.toInt
  | float value => value

/-- Whether the number is written with a minus sign. -/
def isNegative : Number → Bool
  | integer value => value.toInt < 0
  | float value => value.negative

/-- Whether the number is not an infinity. -/
def isFinite : Number → Bool
  | integer _ => true
  | float value => value.isFinite

/-- Equality of numbers of one class, where the two zeros of binary64 are equal. -/
def agrees : Number → Number → Bool
  | integer first, integer second => first == second
  | float first, float second => first.agrees second
  | _, _ => false

end Number

end EventQuery
