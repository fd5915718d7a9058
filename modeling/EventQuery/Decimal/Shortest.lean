import EventQuery.Decimal.Binary64

/-!
# The shortest decimal of a binary64 number

A finite number is written with the fewest significant digits that read back
to it.  Where two decimals of that length read back, the nearer one is taken,
and a tie between them is settled by the format that asked.

The search looks at the decimals of one digit, of two digits, and so on.  On
each such grid only the two neighbours of the number need a look: if any point
of the grid reads back, one of the neighbours does.
-/

namespace EventQuery.Decimal

/-- What becomes of a number halfway between two equally short decimals. -/
inductive Tie where
  /-- The greater magnitude is taken. -/
  | up
  /-- The decimal with the even last digit is taken. -/
  | even
deriving DecidableEq

/-- The decimal `significand * 10 ^ exponent`. -/
structure Scaled where
  significand : Nat
  exponent : Int
deriving DecidableEq

namespace Scaled

/-- Whether the decimal is rounded to the given rank. -/
def readsBack (rank : Nat) (decimal : Scaled) : Bool :=
  Binary64.rankOfDecimal decimal.significand decimal.exponent == rank

/-- The same decimal without zeros at the end of its significand. -/
def withoutTrailingZeros (decimal : Scaled) : Scaled :=
  if nonzero : decimal.significand ≠ 0 ∧ decimal.significand % 10 = 0 then
    withoutTrailingZeros ⟨decimal.significand / 10, decimal.exponent + 1⟩
  else
    decimal
termination_by decimal.significand
decreasing_by
  exact Nat.div_lt_self (Nat.pos_of_ne_zero nonzero.1) (by decide)

end Scaled

/--
The power of ten of the leading digit of a positive magnitude, that is, of the
number `magnitude * 2 ^ (-1074)`.
-/
def leadingExponent (magnitude : Nat) : Int :=
  if fineness ≤ magnitude then
    (digits (magnitude / fineness)).length - 1
  else
    -(digits ((fineness + magnitude - 1) / magnitude - 1)).length

/--
The two neighbours of a magnitude among the multiples of `10 ^ exponent`, the
one to be preferred first.
-/
def gridNeighbours
    (tie : Tie)
    (magnitude : Nat)
    (exponent : Int) :
    Scaled × Scaled :=
  let numerator :=
    match exponent with
    | .ofNat _ => magnitude
    | .negSucc places => magnitude * tenTo (places + 1)
  let denominator :=
    match exponent with
    | .ofNat zeros => fineness * tenTo zeros
    | .negSucc _ => fineness
  let below := numerator / denominator
  let lower : Scaled := ⟨below, exponent⟩
  let upper : Scaled := ⟨below + 1, exponent⟩
  let remainder := numerator % denominator
  let lowerFirst :=
    2 * remainder < denominator ||
      2 * remainder == denominator && tie == .even && below % 2 == 0
  if lowerFirst then (lower, upper) else (upper, lower)

/--
The first grid, from the given one on to finer ones, that has a point reading
back to the rank.
-/
def firstGridPoint
    (tie : Tie)
    (rank : Nat)
    (exponent : Int) :
    Nat → Option Scaled
  | 0 => none
  | finer + 1 =>
      let neighbours := gridNeighbours tie (magnitude rank) exponent
      if neighbours.1.readsBack rank then
        some neighbours.1
      else if neighbours.2.readsBack rank then
        some neighbours.2
      else
        firstGridPoint tie rank (exponent - 1) finer

/-- The number of significant digits that always suffice. -/
def sufficientDigits : Nat := 17

/--
The shortest decimal that reads back to a rank.  Zero is written by the digit
zero; the exact decimal stands in where no short one is found.
-/
def shortest (tie : Tie) (rank : Nat) : Scaled :=
  if rank = 0 then
    ⟨0, 0⟩
  else
    let start := leadingExponent (magnitude rank)
    match firstGridPoint tie rank start sufficientDigits with
    | some decimal => decimal.withoutTrailingZeros
    | none => Scaled.withoutTrailingZeros ⟨magnitude rank * Nat.pow 5 1074, -1074⟩

end EventQuery.Decimal
