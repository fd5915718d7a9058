/-!
# Intervals of code points

Properties of characters beyond ASCII are given as tables of intervals.  A
table is a list of pairs, and a character has the property when its code
point lies between the two ends of some pair, both ends included.
-/

namespace EventQuery.Text

/-- The code points from the first number to the second, both included. -/
abbrev Interval := Nat × Nat

/-- Whether the code point of a character lies in one of the intervals. -/
def liesIn
    (intervals : List Interval)
    (character : Char) :
    Bool :=
  intervals.any fun interval =>
    interval.1 ≤ character.toNat && character.toNat ≤ interval.2

end EventQuery.Text
