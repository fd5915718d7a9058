import EventQuery.Decimal.Digits
import EventQuery.Decimal.Power

/-!
# Binary64 numbers

A number of 64 bits is a sign and a rank.  The rank counts magnitudes from
zero upwards, so the order of ranks is the order of magnitudes, and the rank
after the greatest finite one is infinity.  Every finite magnitude is a whole
multiple of the least one, `2 ^ (-1074)`, and `magnitude` gives that multiple;
hence all questions about rounding are questions about natural numbers.

Decimal text is rounded to the nearest magnitude, and a tie goes to the even
rank.  Since infinity takes the place of the next power of two, the same rule
decides which texts overflow.
-/

namespace EventQuery.Decimal

/-- The rank of infinity, one above the rank of the greatest finite magnitude. -/
def infinityRank : Nat := 0x7FF0000000000000

/-- The number of ranks that are equally spaced, `2 ^ 52`. -/
def blockSize : Nat := twoTo 52

/-- The reciprocal of the least positive magnitude, `2 ^ 1074`. -/
def fineness : Nat := twoTo 1074

/--
The magnitude of a rank as a multiple of `2 ^ (-1074)`.  Ranks below `2 ^ 52`
are their own magnitude; from there on each block of `2 ^ 52` ranks is spaced
twice as widely as the block before it.
-/
def magnitude (rank : Nat) : Nat :=
  if rank < blockSize then
    rank
  else
    (blockSize + rank % blockSize) * twoTo (rank / blockSize - 1)

/-- The greatest rank whose magnitude is at most the given one. -/
def rankBelow (magnitude : Nat) : Nat :=
  (magnitude.log2 - 52) * blockSize + magnitude >>> (magnitude.log2 - 52)

/--
The rank nearest to `numerator / denominator` multiples of `2 ^ (-1074)`.  A
value halfway between two ranks goes to the even one.
-/
def nearestRank (numerator denominator : Nat) : Nat :=
  let below := rankBelow (numerator / denominator)
  let halfway := denominator * (magnitude below + magnitude (below + 1))
  if 2 * numerator < halfway then
    below
  else if halfway < 2 * numerator then
    below + 1
  else
    below + below % 2

/-- A signed binary64 number other than a not-a-number. -/
structure Binary64 where
  negative : Bool
  rank : Nat
  rank_le_infinityRank : rank ≤ infinityRank
deriving DecidableEq

namespace Binary64

/-- The number of a sign and a rank; ranks beyond infinity are infinity. -/
def ofRank (negative : Bool) (rank : Nat) : Binary64 where
  negative := negative
  rank := min rank infinityRank
  rank_le_infinityRank := Nat.min_le_right _ _

/-- Whether the number is not an infinity. -/
def isFinite (number : Binary64) : Bool :=
  number.rank < infinityRank

/-- Whether the number is one of the two zeros. -/
def isZero (number : Binary64) : Bool :=
  number.rank == 0

/-- The number with the other sign. -/
def negate (number : Binary64) : Binary64 :=
  { number with negative := !number.negative }

/-- Numerical equality: the two zeros are equal, all other numbers only to themselves. -/
def agrees (first second : Binary64) : Bool :=
  first == second || first.isZero && second.isZero

/--
The exponents of ten beyond which a decimal is decided without arithmetic.  A
positive decimal of at least `10 ^ 400` is infinite, and one below
`10 ^ (-400)` is zero.
-/
def decisiveExponent : Int := 400

/--
The rank nearest to `significand * 10 ^ exponent`.
-/
def rankOfDecimal (significand : Nat) (exponent : Int) : Nat :=
  if significand = 0 then
    0
  else if decisiveExponent < exponent then
    infinityRank
  else if exponent + (digits significand).length < -decisiveExponent then
    0
  else
    match exponent with
    | .ofNat zeros =>
        nearestRank (significand * tenTo zeros * fineness) 1
    | .negSucc places =>
        nearestRank (significand * fineness) (tenTo (places + 1))

/-- The number nearest to `significand * 10 ^ exponent`, with the given sign. -/
def ofDecimal
    (negative : Bool)
    (significand : Nat)
    (exponent : Int) :
    Binary64 :=
  ofRank negative (rankOfDecimal significand exponent)

/-- The number nearest to an integer. -/
def ofInt (value : Int) : Binary64 :=
  ofDecimal (value < 0) value.natAbs 0

end Binary64

end EventQuery.Decimal
