/-!
# Reading from the start of a text

A reader takes some characters off the start of a text and leaves the rest.
Its result carries the fact that the rest is shorter than a bound, which is
what makes repeated reading end.
-/

namespace EventQuery.Text

/-- A value read from the start of some characters, and the fewer characters left. -/
structure Read (α : Type) (bound : Nat) where
  value : α
  rest : List Char
  length_lt : rest.length < bound

namespace Read

/-- The same reading with another value. -/
def map {α β : Type} {bound : Nat}
    (function : α → β)
    (reading : Read α bound) :
    Read β bound :=
  ⟨function reading.value, reading.rest, reading.length_lt⟩

/-- The same reading under a wider bound. -/
def widen {α : Type} {narrow wide : Nat}
    (reading : Read α narrow)
    (isWider : narrow ≤ wide) :
    Read α wide :=
  ⟨reading.value, reading.rest, Nat.lt_of_lt_of_le reading.length_lt isWider⟩

end Read

/-- A reading whose rest is checked to be shorter than the bound. -/
def bounded {α : Type} (bound : Nat) (result : Option (α × List Char)) :
    Option (Read α bound) :=
  match result with
  | none => none
  | some (value, rest) =>
      if shorter : rest.length < bound then some ⟨value, rest, shorter⟩ else none

/-- What is left after some characters were dropped is not longer. -/
theorem length_dropWhile_le
    (condition : Char → Bool)
    (characters : List Char) :
    (characters.dropWhile condition).length ≤ characters.length :=
  (List.dropWhile_suffix condition).length_le

/-- The value of a hexadecimal digit, in either case. -/
def hexDigit? (character : Char) : Option Nat :=
  if character.isDigit then
    some (character.toNat - '0'.toNat)
  else if 'a' ≤ character ∧ character ≤ 'f' then
    some (character.toNat - 'a'.toNat + 10)
  else if 'A' ≤ character ∧ character ≤ 'F' then
    some (character.toNat - 'A'.toNat + 10)
  else
    none

/-- The number that some hexadecimal digits write. -/
def hexNumber? (characters : List Char) : Option Nat :=
  characters.foldlM
    (fun value character => (hexDigit? character).map (value * 16 + ·)) 0

/-- The character of a code point; surrogates and larger numbers have none. -/
def scalar? (codePoint : Nat) : Option Char :=
  if codePoint.isValidChar then some (Char.ofNat codePoint) else none

end EventQuery.Text
