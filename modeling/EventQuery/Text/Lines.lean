/-!
# Lines of a text

A line ends with a line feed, which may have a carriage return in front of it,
or with the text.  A text that ends with a line feed has no empty line after it.
-/

namespace EventQuery.Text

/-- Lines with one more character at the start of the first of them. -/
def startLines (character : Char) : List (List Char) → List (List Char)
  | [] => [[character]]
  | first :: others => (character :: first) :: others

/-- The lines of a text, without what ends them. -/
def lines : List Char → List (List Char)
  | [] => []
  | '\n' :: rest => [] :: lines rest
  | '\r' :: '\n' :: rest => [] :: lines rest
  | character :: rest => startLines character (lines rest)

end EventQuery.Text
