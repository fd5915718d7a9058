/-!
# Positions in a query

Lines and columns are counted from one, and columns count characters.  A
position is found by walking over the text before it.
-/

namespace EventQuery

/-- A place in a text: its line and its column, both counted from one. -/
structure Position where
  line : Nat
  column : Nat
deriving DecidableEq, Repr

namespace Position

/-- The place of the first character of a text. -/
def start : Position where
  line := 1
  column := 1

/-- The place after one character: a line feed ends its line. -/
def step
    (position : Position)
    (character : Char) :
    Position :=
  if character = '\n' then
    ⟨position.line + 1, 1⟩
  else
    ⟨position.line, position.column + 1⟩

/-- The place after a run of characters. -/
def after
    (position : Position)
    (characters : List Char) :
    Position :=
  characters.foldl step position

@[simp]
theorem after_nil (position : Position) :
    position.after [] = position :=
  rfl

@[simp]
theorem after_cons
    (position : Position)
    (character : Char)
    (characters : List Char) :
    position.after (character :: characters) =
      (position.step character).after characters :=
  rfl

/-- Walking over two runs is walking over the first and then over the second. -/
theorem after_append
    (position : Position)
    (first second : List Char) :
    position.after (first ++ second) =
      (position.after first).after second :=
  List.foldl_append

end Position

end EventQuery
