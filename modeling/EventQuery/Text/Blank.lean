import EventQuery.Text.Interval

/-!
# Blank characters

A blank is a character with the White_Space property: the ASCII blanks, the
next-line control, and the spaces and separators of the wider character set.
Zero-width characters are not blanks.
-/

namespace EventQuery.Text

/-- The code points with the White_Space property. -/
def blankIntervals : List Interval := [
  (0x0009, 0x000D), (0x0020, 0x0020), (0x0085, 0x0085), (0x00A0, 0x00A0),
  (0x1680, 0x1680), (0x2000, 0x200A), (0x2028, 0x2029), (0x202F, 0x202F),
  (0x205F, 0x205F), (0x3000, 0x3000)]

/-- Whether a character separates words without being part of one. -/
def isBlank (character : Char) : Bool :=
  liesIn blankIntervals character

/-- The blanks of the standard character class are blanks here as well. -/
theorem isBlank_of_isWhitespace
    {character : Char}
    (whitespace : character.isWhitespace = true) :
    isBlank character = true := by
  simp only [Char.isWhitespace, Bool.or_eq_true, decide_eq_true_eq] at whitespace
  rcases whitespace with ((rfl | rfl) | rfl) | rfl <;> decide

/-- A list of characters without the blanks at its start. -/
def dropBlanks (characters : List Char) : List Char :=
  characters.dropWhile isBlank

/-- A list of characters without the blanks at its start and at its end. -/
def trimBlanks (characters : List Char) : List Char :=
  (dropBlanks (dropBlanks characters).reverse).reverse

end EventQuery.Text
