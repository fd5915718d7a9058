/-!
# Decimal digits

Whole numbers as decimal digits, without leading zeros, and back.
-/

namespace EventQuery.Decimal

/-- The decimal digits of a natural number. -/
def digits (value : Nat) : List Char :=
  Nat.toDigits 10 value

/-- The natural number that decimal digits write. -/
def ofDigits (characters : List Char) : Nat :=
  Nat.ofDigitChars 10 characters 0

/-- Reading the digits of a number gives the number back. -/
@[simp]
theorem ofDigits_digits (value : Nat) :
    ofDigits (digits value) = value :=
  Nat.ofDigitChars_ten_toDigits

/-- Every digit of a number is an ASCII digit. -/
theorem isDigit_of_mem_digits
    {value : Nat}
    {character : Char}
    (isMember : character ∈ digits value) :
    character.isDigit = true :=
  Nat.isDigit_of_mem_toDigits (by decide) (by decide) isMember

/-- The sign of a negative number, and nothing for others. -/
def minusSign (negative : Bool) : List Char :=
  if negative then ['-'] else []

/-- A natural number as text. -/
def naturalText (value : Nat) : String :=
  String.ofList (digits value)

/-- An integer as text. -/
def integerText (value : Int) : String :=
  String.ofList (minusSign (value < 0) ++ digits value.natAbs)

end EventQuery.Decimal
