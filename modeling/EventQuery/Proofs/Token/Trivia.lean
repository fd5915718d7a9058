import EventQuery.Proofs.Text.Blank
import EventQuery.Proofs.Text.Reading
import EventQuery.Token.Trivia

/-!
# Blanks and comments in front of other characters

A blank is passed over by itself, a comment of a line up to the end of the line,
and a block comment up to its closing mark, whatever stands behind them.
-/

namespace EventQuery

open Text

/-- A blank at the start is passed over, and nothing else with it. -/
theorem triviaItem?_of_isBlank {character : Char} (blank : isBlank character = true)
    (rest : List Char) :
    triviaItem? (character :: rest) = some ([character], rest) := by
  have isNoDash : character ≠ '-' := by
    rintro rfl
    cases blank
  have isNoSlash : character ≠ '/' := by
    rintro rfl
    cases blank
  unfold triviaItem?
  split <;> simp_all

/-- A comment of a line goes up to the end of the line. -/
theorem triviaItem?_lineComment {mark : Char} {body rest : List Char}
    (isMark : mark = '-' ∨ mark = '/')
    (isOneLine : '\n' ∉ body)
    (endsLine : ∀ next ∈ rest.head?, next = '\n') :
    triviaItem? (mark :: mark :: (body ++ rest)) = some (mark :: mark :: body, rest) := by
  have isInside : ∀ character ∈ body, (character != '\n') = true := by
    intro character isIn
    rw [bne_iff_ne]
    rintro rfl
    exact isOneLine isIn
  have stops : StopsAt (· != '\n') rest := by
    intro next isHead
    simp [endsLine next isHead]
  obtain ⟨taken, dropped⟩ := takeWhile_append_of_stopsAt isInside stops
  rcases isMark with rfl | rfl <;> simp [triviaItem?, lineBody, afterLine, taken, dropped]

/-- A block comment goes up to the first mark that closes it. -/
theorem closeComment?_of_isFirst {body : List Char}
    (isFirst : ¬ ['*', '/'] <:+: body)
    (rest : List Char) :
    closeComment? (body ++ '*' :: '/' :: rest) = some (body ++ ['*', '/'], rest) := by
  induction body with
  | nil => rfl
  | cons character body ih =>
      have isFirstLater : ¬ ['*', '/'] <:+: body := fun isIn =>
        isFirst (List.infix_cons isIn)
      -- The closing mark behind the body cannot start with its last character.
      have isNoMark : ∀ after, character = '*' → body ++ '*' :: '/' :: rest ≠ '/' :: after := by
        rintro after rfl isMark
        cases body with
        | nil => cases isMark
        | cons next body =>
            cases isMark
            exact isFirst ⟨[], body, rfl⟩
      rw [List.cons_append, closeComment?, ih isFirstLater]
      · rfl
      · exact isNoMark

theorem triviaItem?_blockComment {body : List Char}
    (isFirst : ¬ ['*', '/'] <:+: body)
    (rest : List Char) :
    triviaItem? ('/' :: '*' :: (body ++ '*' :: '/' :: rest)) =
      some ('/' :: '*' :: (body ++ ['*', '/']), rest) := by
  rw [triviaItem?, closeComment?_of_isFirst isFirst]

end EventQuery
