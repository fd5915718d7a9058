import EventQuery.Proofs.Token.Layout

/-!
# A lexer comes to its end

A lexer is asked for one item after the other.  Every item but the last takes
characters off what remains, so there is at most one more than the query has
characters.  The last one is the end of the query or an error, and from then on the
lexer gives nothing and stays where it is: `comes_to_its_end`.
-/

namespace EventQuery.Lexer

/-- Whether an item is one behind which there are no others. -/
def IsLast : Except QueryError Token → Prop
  | .ok token => token.content = .endOfInput
  | .error _ => True

/-! ## One call -/

/-- What a lexer comes to when it is asked for an item. -/
inductive Answers (lexer : Lexer) : Option (Except QueryError Token) × Lexer → Prop where
  | nothing
      (isDone : lexer.phase = .finished) :
      Answers lexer (none, lexer)
  | last {item : Except QueryError Token} {after : Lexer}
      (isLast : IsLast item)
      (isDone : after.phase = .finished) :
      Answers lexer (some item, after)
  | token {item : Except QueryError Token} {part : List Char} {after : Lexer}
      (isNotLast : ¬ IsLast item)
      (isSome : part ≠ [])
      (isCut : lexer.rest = part ++ after.rest) :
      Answers lexer (some item, after)

theorem answers_nextToken (lexer : Lexer) :
    Answers lexer (some lexer.nextToken.1, lexer.nextToken.2) := by
  have isCloser := lexer.pending_nextToken_lt
  have passes := lexer.passesOver_nextToken
  generalize lexer.nextToken = step at passes isCloser ⊢
  cases passes with
  | ending isTrivia isDone => exact .last rfl isDone
  | fault error isDone => exact .last trivial isDone
  | @token gap token after isNoEnd isTrivia isAll isPlace isPlaceAfter goesOn =>
      rw [← List.append_assoc] at isAll
      refine .token isNoEnd (fun isNothing => ?_) isAll
      rw [isNothing, List.nil_append] at isAll
      simp [pending, goesOn, isAll] at isCloser

theorem answers_next (lexer : Lexer) : Answers lexer lexer.next := by
  rcases lexer.next_cases with ⟨isDone, gives⟩ | ⟨_, _, _, gives⟩ | ⟨_, gives⟩
  · rw [gives]
    exact .nothing isDone
  · rw [gives]
    exact .last trivial rfl
  · rw [gives]
    exact lexer.answers_nextToken

/-- The first of the items is given now, and the others are those of the lexer behind it. -/
theorem items_eq (lexer : Lexer) :
    lexer.next.1 = lexer.items.head? ∧ lexer.next.2.items = lexer.items.tail := by
  cases gives : lexer.next with
  | mk item after =>
      cases item with
      | some item =>
          rw [items_of_next gives]
          exact ⟨rfl, rfl⟩
      | none =>
          have answers := lexer.answers_next
          rw [gives] at answers
          cases answers with
          | nothing isDone =>
              rw [items_of_finished isDone]
              exact ⟨rfl, rfl⟩

/-! ## All calls -/

/-- A lexer after it has been asked for so many items. -/
def afterCalls (lexer : Lexer) : Nat → Lexer
  | 0 => lexer
  | calls + 1 => (lexer.afterCalls calls).next.2

theorem items_afterCalls (lexer : Lexer) (calls : Nat) :
    (lexer.afterCalls calls).items = lexer.items.drop calls := by
  induction calls with
  | zero => rfl
  | succ calls ih => rw [afterCalls, (items_eq _).2, ih, List.tail_drop]

/-- Each call gives the next of the items, as long as there is one. -/
theorem next_afterCalls (lexer : Lexer) (calls : Nat) :
    (lexer.afterCalls calls).next.1 = lexer.items[calls]? := by
  rw [(items_eq _).1, items_afterCalls, List.head?_drop]

theorem length_items_le_pending (lexer : Lexer) : lexer.items.length ≤ lexer.pending := by
  fun_induction items lexer with
  | case1 => exact Nat.zero_le _
  | case2 lexer item after gives ih =>
      have isCloser := pending_next_lt gives
      rw [List.length_cons]
      omega

/-- Exactly the last of whole items is one behind which there are no others. -/
theorem AreWhole.exists_last {items : List (Except QueryError Token)}
    (areWhole : AreWhole items) :
    ∃ front last, items = front ++ [last] ∧ (∀ item ∈ front, ¬ IsLast item) ∧ IsLast last := by
  induction areWhole with
  | ending position => exact ⟨[], _, rfl, List.forall_mem_nil _, rfl⟩
  | fault position fault => exact ⟨[], _, rfl, List.forall_mem_nil _, trivial⟩
  | @token token items isNoEnd _ ih =>
      obtain ⟨front, last, rfl, areNotLast, isLast⟩ := ih
      refine ⟨.ok token :: front, last, rfl, ?_, isLast⟩
      exact List.forall_mem_cons.mpr ⟨isNoEnd, areNotLast⟩

/-- An item that is not the last takes characters off what remains. -/
theorem exists_part_of_not_isLast {lexer : Lexer} {item : Except QueryError Token}
    (gives : lexer.next.1 = some item)
    (isNotLast : ¬ IsLast item) :
    ∃ part, part ≠ "" ∧ lexer.remaining = part ++ lexer.next.2.remaining := by
  have answers := lexer.answers_next
  generalize lexer.next = answer at answers gives ⊢
  cases answers with
  | nothing isDone => cases gives
  | last isLast isDone =>
      cases gives
      exact absurd isLast isNotLast
  | @token item part after _ isSome isCut =>
      refine ⟨String.ofList part, by simpa using isSome, ?_⟩
      rw [remaining, remaining, isCut, String.ofList_append]

/-- A lexer that gives nothing stays as it is. -/
theorem next_eq_self_of_none {lexer : Lexer} (gives : lexer.next.1 = none) :
    lexer.next.2 = lexer := by
  have answers := lexer.answers_next
  generalize lexer.next = answer at answers gives ⊢
  cases answers with
  | nothing isDone => rfl
  | last => cases gives
  | token => cases gives

/--
A lexer that is asked over and over gives at most one item more than its query has
characters.  The last item and no other is the end of the query or an error.  Every
item before it takes characters off what remains, and nothing is given or taken off
behind it.
-/
theorem comes_to_its_end (source : String) (limit : Option Nat) :
    ∃ front last,
      (front ++ [last]).length ≤ source.length + 1 ∧
        (∀ item ∈ front, ¬ IsLast item) ∧ IsLast last ∧
        (∀ calls,
          ((new source limit).afterCalls calls).next.1 = (front ++ [last])[calls]?) ∧
        (∀ calls < front.length,
          ∃ part, part ≠ "" ∧
            ((new source limit).afterCalls calls).remaining =
              part ++ ((new source limit).afterCalls (calls + 1)).remaining) ∧
        ∀ calls > front.length,
          ((new source limit).afterCalls (calls + 1)).remaining =
            ((new source limit).afterCalls calls).remaining := by
  obtain ⟨front, last, items, areNotLast, isLast⟩ := (areWhole_items_new source limit).exists_last
  have gives := (new source limit).next_afterCalls
  rw [items] at gives
  refine ⟨front, last, ?_, areNotLast, isLast, gives, fun calls isBefore => ?_,
    fun calls isBehind => ?_⟩
  · have isBounded := (new source limit).length_items_le_pending
    rw [items] at isBounded
    rw [← source.length_toList]
    exact isBounded
  · have givesItem := gives calls
    rw [List.getElem?_append_left isBefore, List.getElem?_eq_getElem isBefore] at givesItem
    exact exists_part_of_not_isLast givesItem (areNotLast _ (List.getElem_mem isBefore))
  · have givesNothing := gives calls
    rw [List.getElem?_eq_none (by simp; omega)] at givesNothing
    rw [afterCalls, next_eq_self_of_none givesNothing]

end EventQuery.Lexer
