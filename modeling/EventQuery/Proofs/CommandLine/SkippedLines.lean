import Mathlib
import EventQuery.CommandLine.Report
import EventQuery.Proofs.Canonical.Lexing
import EventQuery.Proofs.Token.Items
import EventQuery.Proofs.Token.Trivia

/-!
# Which lines of a file are passed over

A line is passed over as one without a query if nothing but blanks stands in front of
its end, of a hash or of two dashes or slashes.  Apart from those with a hash, such a
line has no token.  The converse fails for lines that start with a block comment: they
may have no token either, and are taken for queries all the same.  Among all other
lines exactly those without a token are passed over: `holdsNoQuery_iff`.
-/

namespace EventQuery.CommandLine

open Text

/-- Whether a line has no token: its lexer comes to the end of the line at once. -/
def HoldsNoToken (line : List Char) : Prop :=
  ∃ position, (Lexer.new (String.ofList line) none).items = [.ok (.endAt position)]

/-- Whether a line starts with a block comment, maybe behind blanks. -/
def StartsBlockComment (line : List Char) : Prop :=
  ['/', '*'] <+: dropBlanks line

/-- A line has no token exactly if it is blanks and comments all along. -/
theorem holdsNoToken_iff (line : List Char) : HoldsNoToken line ↔ (skipTrivia line).2 = [] := by
  unfold HoldsNoToken
  rw [Lexer.items_eq_cons rfl LexerPhase.noConfusion, Lexer.nextToken]
  simp only [Lexer.new, String.toList_ofList]
  cases (skipTrivia line).2 with
  | nil => simp [Lexer.items_of_finished]
  | cons first others =>
      refine iff_of_false ?_ (List.cons_ne_nil first others)
      rintro ⟨position, items⟩
      dsimp only at items
      split at items
      · cases (List.cons.inj items).1
      · rename_i scanned found
        obtain ⟨isContent, _⟩ := Token.mk.inj (Except.ok.inj (List.cons.inj items).1)
        exact isNoEnd_scan found isContent

/-- Blanks at the start make no difference to what is behind all blanks and comments. -/
theorem skipTrivia_dropBlanks (characters : List Char) :
    (skipTrivia (dropBlanks characters)).2 = (skipTrivia characters).2 := by
  induction characters with
  | nil => rfl
  | cons character others ih =>
      cases blank : isBlank character with
      | true =>
          rw [dropBlanks, List.dropWhile_cons_of_pos blank,
            Lexer.skipTrivia_of_some (triviaItem?_of_isBlank blank others)]
          exact ih
      | false => rw [dropBlanks_of_isBlank_eq_false blank]

/-- A comment of a line is all there is on the line. -/
theorem skipTrivia_lineComment {mark : Char} {body : List Char}
    (isMark : mark = '-' ∨ mark = '/')
    (isOneLine : '\n' ∉ body) :
    (skipTrivia (mark :: mark :: body)).2 = [] := by
  have isComment := @triviaItem?_lineComment mark body [] isMark isOneLine nofun
  rw [List.append_nil] at isComment
  rw [Lexer.skipTrivia_of_some isComment, Lexer.skipTrivia_of_none rfl]

/-- Where neither a blank nor a comment starts, something is left. -/
theorem skipTrivia_ne_nil {first : Char} {others : List Char}
    (isVisible : isBlank first = false)
    (isNoDash : first = '-' → others.head? ≠ some '-')
    (isNoSlash : first = '/' → others.head? ≠ some '/' ∧ others.head? ≠ some '*') :
    (skipTrivia (first :: others)).2 ≠ [] := by
  rw [Lexer.skipTrivia_of_none (triviaItem?_eq_none isVisible isNoDash isNoSlash)]
  exact List.cons_ne_nil first others

/--
A line that does not start with a hash is passed over exactly if it has no token and
does not start with a block comment.
-/
theorem holdsNoQuery_iff {line : List Char}
    (isOneLine : '\n' ∉ line)
    (isNoHash : (dropBlanks line).head? ≠ some '#') :
    holdsNoQuery line = true ↔ HoldsNoToken line ∧ ¬ StartsBlockComment line := by
  rw [holdsNoToken_iff, ← skipTrivia_dropBlanks, StartsBlockComment]
  have isOneLine : '\n' ∉ dropBlanks line := mt (List.dropWhile_subset _ ·) isOneLine
  have startsVisible := List.head?_dropWhile_not isBlank line
  rw [← dropBlanks] at startsVisible
  unfold holdsNoQuery
  split
  · rename_i isEmpty
    rw [isEmpty, Lexer.skipTrivia_of_none rfl]
    simp
  · rename_i starts
    rw [starts] at isNoHash
    exact absurd rfl isNoHash
  · rename_i body starts
    rw [starts] at isOneLine ⊢
    have isInside : '\n' ∉ body := fun isIn => isOneLine (by simp [isIn])
    exact iff_of_true rfl ⟨skipTrivia_lineComment (.inl rfl) isInside, by simp⟩
  · rename_i body starts
    rw [starts] at isOneLine ⊢
    have isInside : '\n' ∉ body := fun isIn => isOneLine (by simp [isIn])
    exact iff_of_true rfl ⟨skipTrivia_lineComment (.inr rfl) isInside, by simp⟩
  · rename_i isNotEmpty _ isNoDashes isNoSlashes
    refine iff_of_false Bool.false_ne_true ?_
    rintro ⟨isNothing, isNoBlock⟩
    generalize dropBlanks line = visible at *
    cases visible with
    | nil => exact isNotEmpty rfl
    | cons first others =>
        refine skipTrivia_ne_nil startsVisible ?_ ?_ isNothing
        · rintro rfl isDash
          obtain ⟨rest, rfl⟩ := List.head?_eq_some_iff.mp isDash
          exact isNoDashes _ rfl
        · rintro rfl
          refine ⟨fun isSlash => ?_, fun isStar => ?_⟩
          · obtain ⟨rest, rfl⟩ := List.head?_eq_some_iff.mp isSlash
            exact isNoSlashes _ rfl
          · obtain ⟨rest, rfl⟩ := List.head?_eq_some_iff.mp isStar
            exact isNoBlock ⟨rest, rfl⟩

/-- A comment behind blanks is passed over, though it goes on with a block comment. -/
theorem holdsNoQuery_iff_dashes :
    holdsNoQuery " \t-- /*".toList = true ∧ HoldsNoToken " \t-- /*".toList ∧
      ¬ StartsBlockComment " \t-- /*".toList := by
  have isPassedOver : holdsNoQuery " \t-- /*".toList = true := by decide
  exact ⟨isPassedOver, (holdsNoQuery_iff (by decide) (by decide)).mp isPassedOver⟩

/-- A line that is one block comment has no token, and is still reported as a bad query. -/
theorem not_holdsNoQuery_blockComment :
    '\n' ∉ "/**/".toList ∧ (dropBlanks "/**/".toList).head? ≠ some '#' ∧
      HoldsNoToken "/**/".toList ∧ holdsNoQuery "/**/".toList = false ∧
      (failedLine? ⟨64, none⟩ ("/**/".toList, 1)).isSome = true := by
  refine ⟨by decide, by decide, (holdsNoToken_iff _).mpr ?_, by decide, ?_⟩
  · cbv
  · cbv

end EventQuery.CommandLine
