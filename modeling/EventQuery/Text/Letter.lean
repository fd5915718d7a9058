import EventQuery.Text.LetterTable
import EventQuery.Text.NumeralTable

/-!
# Letters and numerals

A word of a query starts with a letter or an underscore and goes on with
letters, numerals and underscores.  Letters are the characters with the
Alphabetic property, numerals those whose general category is a number.
ASCII is decided without the tables.
-/

namespace EventQuery.Text

/-- Whether a character has the Alphabetic property. -/
def isLetter (character : Char) : Bool :=
  if character.toNat < 0x80 then
    character.isAlpha
  else
    liesIn letterIntervals character

/-- Whether the general category of a character is Nd, Nl or No. -/
def isNumeral (character : Char) : Bool :=
  if character.toNat < 0x80 then
    character.isDigit
  else
    liesIn numeralIntervals character

/-- Whether a bare word may start with this character. -/
def startsWord (character : Char) : Bool :=
  isLetter character || character == '_'

/-- Whether a bare word may go on with this character. -/
def continuesWord (character : Char) : Bool :=
  isLetter character || isNumeral character || character == '_'

/-- Whatever starts a word may also stand inside it. -/
theorem continuesWord_of_startsWord
    {character : Char}
    (starts : startsWord character = true) :
    continuesWord character = true := by
  simp only [startsWord, continuesWord, Bool.or_eq_true] at starts ⊢
  rcases starts with letter | underscore
  · exact Or.inl (Or.inl letter)
  · exact Or.inr underscore

end EventQuery.Text
