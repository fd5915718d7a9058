import EventQuery.Text.Blank

/-!
# Trivia between tokens

Blanks and comments separate tokens and say nothing.  A comment runs from two
dashes or two slashes to before the end of the line, or from a slash and a
star to the first star and slash after them.

Everything here splits a list of characters in two; `skipTrivia_append` says
that nothing is lost.
-/

namespace EventQuery

open Text

/--
The inside of a block comment up to and with its closing mark, and the
characters after it.
-/
def closeComment? : List Char → Option (List Char × List Char)
  | '*' :: '/' :: rest => some (['*', '/'], rest)
  | character :: rest =>
      match closeComment? rest with
      | some (inside, after) => some (character :: inside, after)
      | none => none
  | [] => none

/-- The characters before the end of the line. -/
def lineBody (characters : List Char) : List Char :=
  characters.takeWhile (· != '\n')

/-- The characters from the end of the line on. -/
def afterLine (characters : List Char) : List Char :=
  characters.dropWhile (· != '\n')

/-- One blank or one whole comment at the start, and the characters after it. -/
def triviaItem? : List Char → Option (List Char × List Char)
  | '-' :: '-' :: rest => some ('-' :: '-' :: lineBody rest, afterLine rest)
  | '/' :: '/' :: rest => some ('/' :: '/' :: lineBody rest, afterLine rest)
  | '/' :: '*' :: rest =>
      match closeComment? rest with
      | some (inside, after) => some ('/' :: '*' :: inside, after)
      | none => none
  | character :: rest =>
      if isBlank character then some ([character], rest) else none
  | [] => none

theorem closeComment?_append
    {characters inside after : List Char}
    (closes : closeComment? characters = some (inside, after)) :
    inside ++ after = characters := by
  fun_induction closeComment? characters generalizing inside with
  | case1 rest =>
      simp only [Option.some.injEq, Prod.mk.injEq] at closes
      obtain ⟨rfl, rfl⟩ := closes
      rfl
  | case2 character rest _ inside' after' equality ih =>
      simp only [Option.some.injEq, Prod.mk.injEq] at closes
      obtain ⟨rfl, rfl⟩ := closes
      simp [ih equality]
  | case3 => simp at closes
  | case4 => simp at closes

/-- A blank or comment and what follows it are all there is, and it is not empty. -/
theorem triviaItem?_append
    {characters item after : List Char}
    (found : triviaItem? characters = some (item, after)) :
    item ++ after = characters ∧ item ≠ [] := by
  fun_cases triviaItem? characters <;>
    simp_all [triviaItem?, lineBody, afterLine]
  case case3 inside after' closed =>
      obtain ⟨rfl, rfl⟩ := found
      simp [closeComment?_append closed]
  all_goals
    obtain ⟨rfl, rfl⟩ := found
    simp

/-- What follows a blank or comment is shorter than the whole. -/
theorem length_lt_of_triviaItem?
    {characters item after : List Char}
    (found : triviaItem? characters = some (item, after)) :
    after.length < characters.length := by
  obtain ⟨rfl, nonempty⟩ := triviaItem?_append found
  have positive := List.length_pos_iff.mpr nonempty
  rw [List.length_append]
  omega

/--
All blanks and comments at the start, and the characters after them.  If the
rest starts like a block comment, that comment is never closed.
-/
def skipTrivia (characters : List Char) : List Char × List Char :=
  match _found : triviaItem? characters with
  | none => ([], characters)
  | some (item, after) =>
      let others := skipTrivia after
      (item ++ others.1, others.2)
termination_by characters.length
decreasing_by
  exact length_lt_of_triviaItem? _found

/-- The trivia and what follows them are all there is. -/
theorem skipTrivia_append (characters : List Char) :
    (skipTrivia characters).1 ++ (skipTrivia characters).2 = characters := by
  fun_induction skipTrivia characters with
  | case1 characters none => simp
  | case2 characters item after found others ih =>
      have := (triviaItem?_append found).1
      simp_all [others]

end EventQuery
