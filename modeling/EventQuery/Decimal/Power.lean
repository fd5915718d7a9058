/-!
# Powers of two and of ten

Binary64 numbers are multiples of powers of two, and decimals are multiples of
powers of ten.
-/

namespace EventQuery.Decimal

/-- A power of two. -/
def twoTo (exponent : Nat) : Nat :=
  Nat.pow 2 exponent

/-- A power of ten. -/
def tenTo (exponent : Nat) : Nat :=
  Nat.pow 10 exponent

theorem twoTo_succ (exponent : Nat) : twoTo (exponent + 1) = twoTo exponent * 2 :=
  rfl

theorem tenTo_succ (exponent : Nat) : tenTo (exponent + 1) = tenTo exponent * 10 :=
  rfl

end EventQuery.Decimal
