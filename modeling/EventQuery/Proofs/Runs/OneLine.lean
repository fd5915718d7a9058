import EventQuery.Proofs.Runs.Outcome
import EventQuery.Proofs.Token.Fault

/-!
# Queries on one line

Reading a text without a line feed never leads to another line.  The lexer stays on the
line where it starts, and an error stands at one of its items; so every error of such a
text stands on its first line: `line_of_error`.
-/

namespace EventQuery

/-- Characters without a line feed among them only move the column. -/
theorem Position.line_after {characters : List Char}
    (isOneLine : '\n' ∉ characters)
    (position : Position) :
    (position.after characters).line = position.line := by
  induction characters generalizing position with
  | nil => rfl
  | cons character others ih =>
      obtain ⟨isNoLineFeed, isInside⟩ := List.ne_and_not_mem_of_not_mem_cons isOneLine
      rw [after_cons, ih isInside, step, if_neg isNoLineFeed.symm]

namespace Lexer

/-- Where an item stands: at the first character of a token, or at the place of an error. -/
def placeOf : Except QueryError Token → Position
  | .ok token => token.position
  | .error error => error.position

/-- A lexer is on a line, and so is everything that it has still to read. -/
structure IsOnLine (line : Nat) (lexer : Lexer) : Prop where
  isThere : lexer.position.line = line
  isOneLine : '\n' ∉ lexer.rest

variable {line : Nat} {lexer : Lexer}

/-- The next token stands on the line, and the lexer stays on it. -/
theorem IsOnLine.nextToken (isOnLine : IsOnLine line lexer) :
    (placeOf lexer.nextToken.1).line = line ∧ IsOnLine line lexer.nextToken.2 := by
  obtain ⟨isThere, isOneLine⟩ := isOnLine
  rw [← skipTrivia_append lexer.rest, List.mem_append, not_or] at isOneLine
  have isPlace := (Position.line_after isOneLine.1 lexer.position).trans isThere
  unfold Lexer.nextToken
  dsimp only
  split
  · exact ⟨isPlace, isPlace, List.not_mem_nil⟩
  · rename_i first others isRest
    rw [isRest] at isOneLine
    split
    · exact ⟨isPlace, isPlace, isOneLine.2⟩
    · rename_i scanned found
      rw [← scan_append found, List.mem_append, not_or] at isOneLine
      exact ⟨isPlace, (Position.line_after isOneLine.2.1 _).trans isPlace, isOneLine.2.2⟩

/-- The error of a text that is too long stands on the line as well. -/
theorem IsOnLine.overlength? {error : QueryError}
    (isOnLine : IsOnLine line lexer)
    (isTooLong : lexer.overlength? = some error) :
    error.position.line = line := by
  unfold Lexer.overlength? at isTooLong
  split at isTooLong
  · cases isTooLong
  · rename_i bound _
    have isOneLine := isOnLine.isOneLine
    rw [← splitAtByte_append bound lexer.rest, List.mem_append, not_or] at isOneLine
    split at isTooLong
    · cases isTooLong
    · cases isTooLong
      exact (Position.line_after isOneLine.1 _).trans isOnLine.isThere

/-- The next item stands on the line, whatever it is, and the lexer stays on it. -/
theorem IsOnLine.next {item : Except QueryError Token} {after : Lexer}
    (isOnLine : IsOnLine line lexer)
    (gives : lexer.next = (some item, after)) :
    (placeOf item).line = line ∧ IsOnLine line after := by
  unfold Lexer.next at gives
  split at gives
  · cases gives
  · cases gives
    exact isOnLine.nextToken
  · split at gives
    · rename_i error isTooLong
      cases gives
      exact ⟨isOnLine.overlength? isTooLong, isOnLine.isThere, isOnLine.isOneLine⟩
    · cases gives
      exact isOnLine.nextToken

/-- All items of a lexer on a line stand on that line. -/
theorem IsOnLine.items (isOnLine : IsOnLine line lexer) :
    ∀ item ∈ lexer.items, (placeOf item).line = line := by
  fun_induction Lexer.items lexer with
  | case1 => exact List.forall_mem_nil _
  | case2 lexer item after gives ih =>
      obtain ⟨isHere, staysHere⟩ := isOnLine.next gives
      exact List.forall_mem_cons.mpr ⟨isHere, ih staysHere⟩

end Lexer

end EventQuery
