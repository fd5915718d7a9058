import EventQuery.Decimal.Digits
import EventQuery.Decimal.Shortest

/-!
# Layouts of decimal text

Three texts show binary64 numbers: the literals of a query, the plain value of
a number, and JSON.  All of them write the shortest digits; a layout says how
ties between digits are settled, which numbers are written positionally, and
whether a whole number keeps a decimal point.
-/

namespace EventQuery.Decimal

/-- The decisions of one way to write a number. -/
structure Layout where
  /-- How a tie between two equally short decimals is settled. -/
  tie : Tie
  /-- Whether a number is positional, from the power of ten of its first digit. -/
  positional : Int → Bool
  /-- Whether a whole number written positionally ends in `.0`. -/
  keepsPoint : Bool
  /-- The text of infinity, with the sign in front where there is one. -/
  infinity : Bool → String

/-- The sign and the word `inf`. -/
def signedInfinity (negative : Bool) : String :=
  if negative then "-inf" else "inf"

/--
Literals of a query are always positional and always have a decimal point, so
that they read back as decimals.
-/
def literalLayout : Layout where
  tie := .up
  positional := fun _ => true
  keepsPoint := true
  infinity := signedInfinity

/-- Plain values are positional, and a whole number has no decimal point. -/
def plainLayout : Layout where
  tie := .up
  positional := fun _ => true
  keepsPoint := false
  infinity := signedInfinity

/--
JSON is positional while the first digit stands between `10 ^ (-5)` and
`10 ^ 15`, and has no infinities.
-/
def jsonLayout : Layout where
  tie := .even
  positional := fun leading => -5 ≤ leading && leading ≤ 15
  keepsPoint := true
  infinity := fun _ => "null"

/--
A decimal without exponent: digits and zeros where it is whole, else the digits
with a point before the last `places` of them, with zeros in front as needed.
-/
def positionalText
    (keepsPoint : Bool)
    (decimal : Scaled) :
    List Char :=
  match decimal.exponent with
  | .ofNat zeros =>
      digits decimal.significand ++ List.replicate zeros '0' ++
        (if keepsPoint then ['.', '0'] else [])
  | .negSucc below =>
      let places := below + 1
      let shown := digits decimal.significand
      let padded := List.replicate (places + 1 - shown.length) '0' ++ shown
      padded.take (padded.length - places) ++
        '.' :: padded.drop (padded.length - places)

/--
A decimal with a signed exponent: one digit, a point and the other digits if
there are any, and the power of ten of the first digit.
-/
def scientificText (decimal : Scaled) (leading : Int) : List Char :=
  let significand :=
    match digits decimal.significand with
    | first :: second :: others => first :: '.' :: second :: others
    | short => short
  let sign := if leading < 0 then '-' else '+'
  significand ++ 'e' :: sign :: digits leading.natAbs

/-- The power of ten of the first digit of a decimal. -/
def Scaled.leading (decimal : Scaled) : Int :=
  decimal.exponent + (digits decimal.significand).length - 1

namespace Layout

/-- The text of a magnitude. -/
def magnitudeText (layout : Layout) (rank : Nat) : List Char :=
  let decimal := shortest layout.tie rank
  if layout.positional decimal.leading then
    positionalText layout.keepsPoint decimal
  else
    scientificText decimal decimal.leading

/-- The text of a number. -/
def text (layout : Layout) (number : Binary64) : String :=
  if number.isFinite then
    String.ofList
      (minusSign number.negative ++ layout.magnitudeText number.rank)
  else
    layout.infinity number.negative

end Layout

end EventQuery.Decimal
