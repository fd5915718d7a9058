import EventQuery.Text.Reading

/-!
# Runs of characters

A reader takes the longest run of characters of one kind.  In front of a
character of another kind, or of nothing, that is the whole run.
-/

namespace EventQuery.Text

/-- Whether no character at the start, if there is one, is of a kind. -/
def StopsAt (condition : Char → Bool) (rest : List Char) : Prop :=
  ∀ character ∈ rest.head?, condition character = false

theorem stopsAt_nil (condition : Char → Bool) : StopsAt condition [] := by
  intro character isHead
  cases isHead

theorem stopsAt_cons {condition : Char → Bool} {character : Char} {rest : List Char}
    (isOther : condition character = false) :
    StopsAt condition (character :: rest) := by
  intro head isHead
  cases isHead
  exact isOther

/-- A run in front of a character of another kind is taken as a whole. -/
theorem takeWhile_append_of_stopsAt
    {condition : Char → Bool} {characters rest : List Char}
    (holds : ∀ character ∈ characters, condition character = true)
    (stops : StopsAt condition rest) :
    (characters ++ rest).takeWhile condition = characters ∧
      (characters ++ rest).dropWhile condition = rest := by
  rw [List.takeWhile_append_of_pos holds, List.dropWhile_append_of_pos holds]
  cases rest with
  | nil => simp
  | cons character rest =>
      have isStopped : condition character = false := stops character rfl
      simp [isStopped]

end EventQuery.Text
