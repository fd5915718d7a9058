import EventQuery.Proofs.Steps.Expression

/-!
# Steps of the readers of clauses

The logged readers of clauses follow the readers of clauses, and so does the reader
of a whole query.
-/

namespace EventQuery.Grammar

variable {setting : Setting} {floor depth : Nat} {tokens : List Token}

/-! ## Lists of columns and names -/

/-- A list with commas, if its items may begin behind its own stage. -/
theorem follows_commaSeparated {α : Type} {exit : Nat}
    {run : (cursor : Cursor) → Logged (Parsed α cursor.size)}
    {plain : (cursor : Cursor) → Outcome α cursor.size}
    (items : ∀ (tokens : List Token) (depth floor : Nat),
      floor ≤ Stage.selectItem.rank → depth ≤ setting.maxDepth →
        Follows setting floor ⟨tokens, depth⟩ (run ⟨tokens, depth⟩)
          (plain ⟨tokens, depth⟩) exit)
    {floor depth : Nat} {tokens : List Token}
    (isInOrder : floor ≤ Stage.listItem.rank)
    (isShallow : depth ≤ setting.maxDepth) :
    Follows setting floor ⟨tokens, depth⟩
      (Logged.commaSeparated setting run ⟨tokens, depth⟩)
      (commaSeparated setting plain ⟨tokens, depth⟩) exit := by
  rw [Logged.commaSeparated, commaSeparated]
  refine .start isInOrder isShallow ?_
  refine (items tokens depth _ (Nat.le_refl _) isShallow).andThen
    fun first place isFirstShorter last isLast => ?_
  refine .takeIf? (.arrive rfl rfl rfl isLast) fun _ comma rest isShorter _ => ?_
  have isItShorter := Nat.lt_trans isShorter isFirstShorter
  refine (follows_commaSeparated items (Nat.zero_le _) isShallow).andThen
    fun others _ _ _ isLast => ?_
  exact .arrive rfl rfl rfl isLast
termination_by tokens.length

theorem follows_column
    (isInOrder : floor ≤ Stage.column.rank)
    (isShallow : depth ≤ setting.maxDepth) :
    Follows setting floor ⟨tokens, depth⟩ (Logged.column setting ⟨tokens, depth⟩)
      (column setting ⟨tokens, depth⟩) expressionExit := by
  refine .start isInOrder isShallow ?_
  refine .peek fun first => ?_
  split
  · refine
      (follows_arithmetic .value _ _ _ _ (nestedFollows_expression _) (by decide)
        isShallow).andThen fun expression _ _ _ isLast => ?_
    have isExit : Stage.testAfter.rank ≤ expressionExit := by decide
    dsimp only
    cases column? expression with
    | some item => exact .arrive rfl rfl rfl (Nat.le_trans isLast isExit)
    | none => exact .throw
  · exact .throw

theorem follows_selectItem
    (isInOrder : floor ≤ Stage.selectItem.rank)
    (isShallow : depth ≤ setting.maxDepth) :
    Follows setting floor ⟨tokens, depth⟩ (Logged.selectItem setting ⟨tokens, depth⟩)
      (selectItem setting ⟨tokens, depth⟩) expressionExit := by
  refine .start isInOrder isShallow ?_
  refine (follows_column (Nat.le_refl _) isShallow).andThen fun item _ _ _ isLast => ?_
  refine .takeIf? (.arrive rfl rfl rfl isLast) fun _ word _ _ _ => ?_
  refine .take fun name _ _ => ?_
  exact .arrive rfl rfl rfl (Nat.zero_le _)

theorem follows_selectList
    (isInOrder : floor ≤ Stage.listItem.rank)
    (isShallow : depth ≤ setting.maxDepth) :
    Follows setting floor ⟨tokens, depth⟩ (Logged.selectList setting ⟨tokens, depth⟩)
      (selectList setting ⟨tokens, depth⟩) expressionExit :=
  follows_commaSeparated (fun _ _ _ => follows_selectItem) isInOrder isShallow

theorem follows_nameList
    (expected : Expectation)
    (isInOrder : floor ≤ Stage.listItem.rank)
    (isShallow : depth ≤ setting.maxDepth) :
    Follows setting floor ⟨tokens, depth⟩ (Logged.nameList setting expected ⟨tokens, depth⟩)
      (nameList setting expected ⟨tokens, depth⟩) 0 :=
  follows_commaSeparated (fun _ _ _ _ _ => follows_take) isInOrder isShallow

/-! ## Points in time and buckets -/

theorem follows_durationAfter
    (amount : UInt64) (tokens : List Token)
    (isInOrder : floor ≤ Stage.duration.rank)
    (isShallow : depth ≤ setting.maxDepth) :
    Follows setting floor ⟨tokens, depth⟩
      (Logged.durationAfter setting amount ⟨tokens, depth⟩)
      (durationAfter setting amount ⟨tokens, depth⟩) 0 := by
  refine .start isInOrder isShallow ?_
  refine .take fun unit _ _ => ?_
  refine .take fun word _ _ => ?_
  exact .arrive rfl rfl rfl (Nat.le_refl 0)

theorem follows_timeSpec
    (clause : Clause)
    (isInOrder : floor ≤ Stage.timeSpec.rank)
    (isShallow : depth ≤ setting.maxDepth) :
    Follows setting floor ⟨tokens, depth⟩ (Logged.timeSpec setting clause ⟨tokens, depth⟩)
      (timeSpec setting clause ⟨tokens, depth⟩) 0 := by
  refine .start isInOrder isShallow ?_
  refine .take fun first rest _ => ?_
  cases first with
  | whole spec => exact .arrive rfl rfl rfl (Nat.le_refl 0)
  | amount token =>
      dsimp only
      cases token.amount? with
      | none => exact .throw
      | some amount =>
          exact (follows_durationAfter amount rest (Nat.zero_le _) isShallow).widen

theorem follows_bucketing
    (isInOrder : floor ≤ Stage.bucketing.rank)
    (isShallow : depth ≤ setting.maxDepth) :
    Follows setting floor ⟨tokens, depth⟩ (Logged.bucketing setting ⟨tokens, depth⟩)
      (bucketing setting ⟨tokens, depth⟩) 0 := by
  refine .start isInOrder isShallow ?_
  refine .take fun first _ _ => ?_
  cases first with
  | auto => exact .arrive rfl rfl rfl (Nat.le_refl 0)
  | amount token =>
      dsimp only
      cases token.amount? with
      | none => exact .throw
      | some amount =>
          refine .take fun unit _ _ => ?_
          exact .arrive rfl rfl rfl (Nat.le_refl 0)

/-! ## Clauses and queries -/

/-- What a clause adds to a query is made from what its body says. -/
theorem Tracks.mapped {α β : Type} {bound exit : Nat}
    {run : Logged (Parsed α bound)} {outcome : Outcome α bound} {function : α → β}
    (tracks : Tracks setting floor tokens run outcome (Arrives depth exit)) :
    Tracks setting floor tokens (run >>= fun parsed => pure (parsed.map function))
      (outcome >>= fun parsed => pure (parsed.map function)) (Arrives depth exit) :=
  tracks.andThen fun _ _ _ _ isLast => .arrive rfl rfl rfl isLast

theorem follows_clauseBody
    (clause : Clause) (query : Query)
    (isInOrder : floor ≤ Stage.clauseBody.rank)
    (isShallow : depth ≤ setting.maxDepth) :
    Follows setting floor ⟨tokens, depth⟩
      (Logged.clauseBody setting clause query ⟨tokens, depth⟩)
      (clauseBody setting clause query ⟨tokens, depth⟩) expressionExit := by
  refine .start isInOrder isShallow ?_
  have isList : Stage.clauseBody.rank + 1 ≤ Stage.listItem.rank := by decide
  have isTime : Stage.clauseBody.rank + 1 ≤ Stage.timeSpec.rank := by decide
  cases clause with
  | condition =>
      refine .mapped ?_
      exact follows_expression .condition ⟨tokens, depth⟩ (by decide) isShallow
  | facet =>
      refine .mapped (.weaken ?_ (Nat.zero_le expressionExit))
      exact follows_nameList .facetAttribute isList isShallow
  | source =>
      refine .mapped (.weaken ?_ (Nat.zero_le expressionExit))
      exact follows_nameList .eventType isList isShallow
  | limit =>
      refine .mapped (.weaken ?_ (Nat.zero_le expressionExit))
      exact follows_take
  | since =>
      refine .mapped (.weaken ?_ (Nat.zero_le expressionExit))
      exact follows_timeSpec .since isTime isShallow
  | upTo =>
      refine .mapped (.weaken ?_ (Nat.zero_le expressionExit))
      exact follows_timeSpec .upTo isTime isShallow
  | compareWith =>
      refine .take fun word rest _ => ?_
      refine (follows_timeSpec .compareWith (Nat.zero_le _) isShallow).andThen
        fun spec _ _ _ isLast => ?_
      exact .arrive rfl rfl rfl (Nat.le_trans isLast (Nat.zero_le _))
  | timeseries =>
      refine .mapped (.weaken ?_ (Nat.zero_le expressionExit))
      exact follows_bucketing isTime isShallow
  | select =>
      refine .mapped ?_
      exact follows_selectList isList isShallow

/-- A run that is known to follow, whatever it gives. -/
abbrev RunsAlong {α : Type} (setting : Setting) (floor : Nat) (tokens : List Token)
    (run : Logged α) (outcome : Except QueryError α) : Prop :=
  Tracks setting floor tokens run outcome fun _ _ _ => True

theorem runsAlong_optionalClauses
    (allowed : List Clause) (query : Query)
    {floor depth : Nat} {tokens : List Token}
    (isInOrder : floor ≤ Stage.optionalClauses.rank)
    (isShallow : depth ≤ setting.maxDepth) :
    RunsAlong setting floor tokens
      (Logged.optionalClauses setting allowed query ⟨tokens, depth⟩)
      (optionalClauses setting allowed query ⟨tokens, depth⟩) := by
  rw [Logged.optionalClauses, optionalClauses]
  refine .start isInOrder isShallow ?_
  refine .peek fun token => ?_
  split
  · exact .quiet fun _ _ => trivial
  · refine .take fun first rest isFirstShorter => ?_
    refine (follows_clauseBody first.1 query (Nat.zero_le _) isShallow).andThen
      fun body behind isShorter last isLast => ?_
    have isItShorter := Nat.lt_trans isShorter isFirstShorter
    exact runsAlong_optionalClauses first.2 body isLast isShallow
termination_by tokens.length

/-- The logged reader of queries goes the way of the reader of queries. -/
theorem runsAlong_query (setting : Setting) (tokens : List Token) :
    RunsAlong setting 0 tokens (Logged.query setting ⟨tokens, 0⟩)
      (Grammar.query setting ⟨tokens, 0⟩) := by
  refine .start (Nat.zero_le _) (Nat.zero_le _) ?_
  refine .take fun selectWord _ _ => ?_
  refine (follows_clauseBody .select _ (Nat.zero_le _) (Nat.zero_le _)).andThen
    fun columns _ _ _ _ => ?_
  refine .take fun fromWord _ _ => ?_
  refine (follows_clauseBody .source columns (Nat.zero_le _) (Nat.zero_le _)).andThen
    fun sources _ _ _ isLast => ?_
  exact runsAlong_optionalClauses Clause.optional sources isLast (Nat.zero_le _)

end EventQuery.Grammar
