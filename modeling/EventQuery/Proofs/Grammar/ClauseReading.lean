import EventQuery.Proofs.Grammar.Completeness
import EventQuery.Proofs.Operator

/-!
# What the readers of clauses give

For the body of every clause, that reading it and being a phrase of it are the
same.  A column, a condition and a list of names end where the token ahead says
so; all other bodies end by themselves.
-/

namespace EventQuery.Grammar

/-! ## The shape of columns -/

theorem callArithmetic_of_callsInArithmetic?
    {expression : Expression} {hasCall : Bool}
    (calls : callsInArithmetic? expression = some hasCall) :
    expression.CallArithmetic hasCall := by
  fun_induction callsInArithmetic? expression generalizing hasCall with
  | case1 => cases calls
  | case2 function arguments isNoOperator =>
      cases calls
      refine .call fun operator isSymbol => ?_
      exact isNoOperator operator (BinaryOperator.ofSymbol?_eq_arithmetic_iff.mpr isSymbol)
  | case3 value =>
      cases calls
      exact .number
  | case4 operand ih => exact .negate (ih calls)
  | case5 operator left right inLeft inRight rightCalls leftCalls leftIh rightIh =>
      cases calls
      exact .arithmetic (leftIh leftCalls) (rightIh rightCalls)
  | case6 => cases calls
  | case7 => cases calls

theorem callsInArithmetic?_eq_some_iff {expression : Expression} {hasCall : Bool} :
    callsInArithmetic? expression = some hasCall ↔
      expression.CallArithmetic hasCall := by
  constructor
  · exact callArithmetic_of_callsInArithmetic?
  · intro arithmetic
    induction arithmetic with
    | call isNoOperator =>
        unfold callsInArithmetic?
        split
        · rename_i operator isOperator
          have isSymbol := BinaryOperator.ofSymbol?_eq_arithmetic_iff.mp isOperator
          exact absurd isSymbol (isNoOperator operator)
        · rfl
    | number => rfl
    | negate inner ih => exact ih
    | arithmetic leftInner rightInner leftIh rightIh =>
        simp [callsInArithmetic?, leftIh, rightIh]

/-- A column is a call, or an operator on top, made of calls and numbers. -/
theorem column?_eq_some_iff {expression : Expression} {item : SelectItem} :
    column? expression = some item ↔
      expression.CallArithmetic true ∧
        ∃ function arguments, expression.Computes function arguments ∧
          item = ⟨function, arguments, none⟩ := by
  unfold column?
  constructor
  · intro isColumn
    obtain ⟨calls, isColumn⟩ := Option.ite_none_right_eq_some.mp isColumn
    have arithmetic := callsInArithmetic?_eq_some_iff.mp calls
    refine ⟨arithmetic, ?_⟩
    generalize true = hasCall at arithmetic
    cases arithmetic with
    | call isNoOperator =>
        cases isColumn
        exact ⟨_, _, .call, rfl⟩
    | number => cases isColumn
    | negate inner => cases isColumn
    | arithmetic leftInner rightInner =>
        cases isColumn
        exact ⟨_, _, .operator, rfl⟩
  · rintro ⟨arithmetic, function, arguments, computes, rfl⟩
    rw [if_pos (callsInArithmetic?_eq_some_iff.mpr arithmetic)]
    cases computes with
    | call => rfl
    | operator => rfl

/-- The first token of a run may start a column. -/
def StartsColumn (tokens : List Token) : Prop :=
  ∃ (token : Token) (rest : List Token), tokens = token :: rest ∧ startsColumn token = true

theorem StartsColumn.append {tokens : List Token}
    (starts : StartsColumn tokens) (others : List Token) :
    StartsColumn (tokens ++ others) := by
  obtain ⟨token, rest, rfl, isStart⟩ := starts
  exact ⟨token, rest ++ others, rfl, isStart⟩

theorem startsColumn_of_name? {token : Token} {name : String}
    (means : token.name? = some name) :
    startsColumn token = true := by
  simp [startsColumn, means]

/-- Arithmetic over calls and numbers never starts with a string. -/
theorem Phrase.startsColumn {nesting : Nat} {level : Level} {tokens : List Token}
    {expression : Expression} {hasCall : Bool} :
    Phrase nesting level tokens expression → 5 ≤ level.strength →
      expression.CallArithmetic hasCall → StartsColumn tokens
  | .loosen inner, isTight, arithmetic =>
      inner.startsColumn (Nat.le_trans isTight level.strength_le_tighter) arithmetic
  | .star _, _, arithmetic => nomatch arithmetic
  | .connected _ _ _, _, arithmetic => nomatch arithmetic
  | .negation _ _, _, arithmetic => nomatch arithmetic
  | .compared _ _ _, _, arithmetic => nomatch arithmetic
  | .tested _ test, _, arithmetic => by
      cases test <;> cases arithmetic
  | .computed left _ _, isTight, .arithmetic leftArithmetic _ =>
      (left.startsColumn isTight leftArithmetic).append _
  | .opposite isMinus _ _, _, _ =>
      ⟨_, _, rfl, by simp [EventQuery.Grammar.startsColumn, isMinus]⟩
  | .minus isMinus _ _, _, _ =>
      ⟨_, _, rfl, by simp [EventQuery.Grammar.startsColumn, isMinus]⟩
  | .number means, _, _ => ⟨_, _, rfl, by simp [EventQuery.Grammar.startsColumn, means]⟩
  | .string _, _, arithmetic => nomatch arithmetic
  | .boolean _, _, arithmetic => nomatch arithmetic
  | .field _ means, _, _ => ⟨_, _, rfl, startsColumn_of_name? means⟩
  | .emptyCall _ means _ _, _, _ => ⟨_, _, rfl, startsColumn_of_name? means⟩
  | .call _ means _ _ _, _, _ => ⟨_, _, rfl, startsColumn_of_name? means⟩
  | .group opens _ _, _, _ => ⟨_, _, rfl, by simp [EventQuery.Grammar.startsColumn, opens]⟩

/-! ## Places where items and clauses end -/

/-- Nothing more of a clause is ahead: the end of the query, or a clause. -/
def ClauseEnds (cursor : Cursor) : Prop :=
  ∀ ⦃token : Token⦄ ⦃place : Cursor⦄,
    cursor = place.preceded [token] →
      token.content = .endOfInput ∨
        ∃ clause : Clause, token.content = .keyword clause.keyword

/-- Nothing more of an item of a list is ahead: a comma, or the end of the clause. -/
def ItemEnds (cursor : Cursor) : Prop :=
  ∀ ⦃token : Token⦄ ⦃place : Cursor⦄,
    cursor = place.preceded [token] →
      token.content = .comma ∨ token.content = .endOfInput ∨
        ∃ clause : Clause, token.content = .keyword clause.keyword

theorem ClauseEnds.itemEnds {cursor : Cursor} (ends : ClauseEnds cursor) :
    ItemEnds cursor :=
  fun _ _ equal => Or.inr (ends equal)

theorem itemEnds_comma {comma : Token} {tokens : List Token} {cursor : Cursor}
    (isComma : comma.content = .comma) :
    ItemEnds (cursor.preceded (comma :: tokens)) := by
  intro token place equal
  rw [Cursor.preceded_cons] at equal
  obtain ⟨rfl, _⟩ := Cursor.preceded_singleton_inj.mp equal
  exact Or.inl isComma

theorem clauseEnds_keyword
    {clause : Clause} {word : Token} {tokens : List Token} {cursor : Cursor}
    (isClause : word.content = .keyword clause.keyword) :
    ClauseEnds (cursor.preceded (word :: tokens)) := by
  intro token place equal
  rw [Cursor.preceded_cons] at equal
  obtain ⟨rfl, _⟩ := Cursor.preceded_singleton_inj.mp equal
  exact Or.inr ⟨clause, isClause⟩

theorem ItemEnds.bindsBelow {cursor : Cursor} (ends : ItemEnds cursor) :
    BindsBelow 1 cursor := by
  intro token place equal
  rcases ends equal with isComma | isEnd | ⟨clause, isClause⟩
  · rw [isComma]
    exact Nat.one_pos
  · rw [isEnd]
    exact Nat.one_pos
  · rw [isClause]
    cases clause <;> exact Nat.one_pos

variable {setting : Setting} {ending : Token}

theorem declines_of_ends
    {α : Type} {accept : Token → Option α} {Ends : Token → Prop} {cursor : Cursor}
    (endsWell : setting.ending = .ok ending)
    (ends : ∀ ⦃token place⦄, cursor = Cursor.preceded place [token] → Ends token)
    (rejects : ∀ token, Ends token → accept token = none) :
    Declines setting cursor accept := by
  rcases cursor.eq_end_or_preceded with isEnd | ⟨token, place, rfl⟩
  · exact declines_end setting endsWell isEnd
  · exact (declines_preceded_iff setting).mpr (rejects token (ends rfl))

theorem ClauseEnds.declines_comma
    {cursor : Cursor}
    (endsWell : setting.ending = .ok ending)
    (ends : ClauseEnds cursor) :
    Declines setting cursor (exactly .comma) := by
  refine declines_of_ends endsWell ends fun token isEnd => exactly_eq_none_iff.mpr ?_
  rcases isEnd with isEnd | ⟨clause, isClause⟩
  · simp [isEnd]
  · simp [isClause]

theorem ItemEnds.declines_as
    {cursor : Cursor}
    (endsWell : setting.ending = .ok ending)
    (ends : ItemEnds cursor) :
    Declines setting cursor (exactly (.keyword .asWord)) := by
  refine declines_of_ends endsWell ends fun token isEnd => exactly_eq_none_iff.mpr ?_
  rcases isEnd with isComma | isEnd | ⟨clause, isClause⟩
  · simp [isComma]
  · simp [isEnd]
  · rw [isClause]
    cases clause <;> simp [Clause.keyword]

/-! ## Lists with commas -/

section CommaSeparated

variable {α : Type} {item : (cursor : Cursor) → Outcome α cursor.size}

theorem gives_commaSeparated_iff
    {cursor after : Cursor} {values : List α} :
    Gives (commaSeparated setting item cursor) values after ↔
      ∃ (first : α) (place : Cursor),
        Gives (item cursor) first place ∧
          ((Declines setting place (exactly .comma) ∧ values = [first] ∧
              after = place) ∨
            ∃ (comma : Token) (next : Cursor) (others : List α),
              place = next.preceded [comma] ∧ comma.content = .comma ∧
                values = first :: others ∧
                Gives (commaSeparated setting item next) others after) := by
  rw [commaSeparated]
  constructor
  · intro gives
    obtain ⟨first, place, _, itemGives, gives⟩ := gives_bind_outcome_iff.mp gives
    refine ⟨first, place, itemGives, ?_⟩
    rcases (gives_bind_takeIf?_iff setting).mp gives with
      ⟨declines, gives⟩ | ⟨token, found, next, _, rfl, accepted, gives⟩
    · obtain ⟨rfl, rfl⟩ := gives_pure_iff.mp gives
      exact Or.inl ⟨declines, rfl, rfl⟩
    · obtain ⟨isComma, rfl⟩ := exactly_eq_some_iff.mp accepted
      obtain ⟨others, last, _, othersGive, gives⟩ := gives_bind_outcome_iff.mp gives
      obtain ⟨rfl, rfl⟩ :=
        gives_pure_iff.mp (gives_before_iff.mp (gives_before_iff.mp gives))
      exact Or.inr ⟨found, next, others, rfl, isComma, rfl, othersGive⟩
  · rintro ⟨first, place, itemGives, goesOn⟩
    refine gives_bind_of_gives itemGives ?_
    rcases goesOn with
      ⟨declines, rfl, rfl⟩ | ⟨comma, next, others, rfl, isComma, rfl, othersGive⟩
    · refine gives_bind_takeIf?_of_declines setting declines ?_
      exact gives_pure_iff.mpr ⟨rfl, rfl⟩
    · refine gives_bind_takeIf?_of_accepts setting (exactly_of_content isComma) ?_
      refine gives_bind_of_gives othersGive ?_
      exact
        gives_before_iff.mpr (gives_before_iff.mpr (gives_pure_iff.mpr ⟨rfl, rfl⟩))

variable {Item : List Token → α → Prop} {depth : Nat}

theorem separated_of_gives_commaSeparated
    (itemSound :
      ∀ {cursor after : Cursor} {value : α},
        cursor.depth = depth → Gives (item cursor) value after →
          ∃ used, cursor = after.preceded used ∧ Item used value)
    {cursor after : Cursor} {values : List α}
    (atDepth : cursor.depth = depth)
    (gives : Gives (commaSeparated setting item cursor) values after) :
    ∃ used, cursor = after.preceded used ∧ Separated Item used values := by
  induction values generalizing cursor with
  | nil =>
      obtain ⟨first, place, _, ⟨_, impossible, _⟩ | ⟨_, _, _, _, _, impossible, _⟩⟩ :=
        gives_commaSeparated_iff.mp gives
      · cases impossible
      · cases impossible
  | cons value values ih =>
      obtain ⟨first, place, itemGives, goesOn⟩ := gives_commaSeparated_iff.mp gives
      obtain ⟨used, rfl, phrase⟩ := itemSound atDepth itemGives
      rcases goesOn with ⟨_, equal, rfl⟩ | ⟨comma, next, others, rfl, isComma, equal, othersGive⟩
      · obtain ⟨rfl, rfl⟩ := List.cons.inj equal
        exact ⟨used, rfl, .last phrase⟩
      · obtain ⟨rfl, rfl⟩ := List.cons.inj equal
        obtain ⟨rest, rfl, separated⟩ := @ih next atDepth othersGive
        refine ⟨used ++ comma :: rest, ?_, .more phrase isComma separated⟩
        simp [Cursor.preceded]

theorem gives_commaSeparated_of_separated
    (endsWell : setting.ending = .ok ending)
    (itemComplete :
      ∀ {used : List Token} {value : α} {after : Cursor},
        after.depth = depth → ItemEnds after → Item used value →
          Gives (item (after.preceded used)) value after)
    {used : List Token} {values : List α} {after : Cursor}
    (separated : Separated Item used values)
    (atDepth : after.depth = depth)
    (ends : ClauseEnds after) :
    Gives (commaSeparated setting item (after.preceded used)) values after := by
  induction separated with
  | last phrase =>
      refine
        gives_commaSeparated_iff.mpr
          ⟨_, after, itemComplete atDepth ends.itemEnds phrase, Or.inl ⟨?_, rfl, rfl⟩⟩
      exact ends.declines_comma endsWell
  | @more tokens others comma value values phrase isComma rest ih =>
      rw [Cursor.preceded_append]
      refine
        gives_commaSeparated_iff.mpr
          ⟨value, after.preceded (comma :: others), ?_,
            Or.inr ⟨comma, after.preceded others, values, rfl, isComma, rfl, ih⟩⟩
      exact itemComplete atDepth (itemEnds_comma isComma) phrase

end CommaSeparated

/-! ## The bodies of clauses -/

section Bodies

variable {cursor after : Cursor}

theorem gives_column_iff {item : SelectItem} :
    Gives (column setting cursor) item after ↔
      ∃ start, peek setting cursor = .ok start ∧ startsColumn start = true ∧
        ∃ (expression : Expression) (function : String) (arguments : List Expression),
          Gives (arithmetic setting .value cursor (nestedFrom setting cursor))
              expression after ∧
            expression.CallArithmetic true ∧ expression.Computes function arguments ∧
            item = ⟨function, arguments, none⟩ := by
  unfold column
  rw [gives_bind_peek_iff]
  constructor
  · rintro ⟨start, ahead, gives⟩
    split at gives
    · rename_i isStart
      obtain ⟨expression, place, _, expressionGives, gives⟩ :=
        gives_bind_outcome_iff.mp gives
      split at gives
      · rename_i item' isColumn
        obtain ⟨rfl, rfl⟩ := gives_pure_iff.mp gives
        obtain ⟨arithmetic, function, arguments, computes, rfl⟩ :=
          column?_eq_some_iff.mp isColumn
        exact
          ⟨start, ahead, isStart, expression, function, arguments, expressionGives,
            arithmetic, computes, rfl⟩
      · exact (not_gives_throw gives).elim
    · exact (not_gives_throw gives).elim
  · rintro ⟨start, ahead, isStart, expression, function, arguments, expressionGives,
      arithmetic, computes, rfl⟩
    refine ⟨start, ahead, ?_⟩
    rw [if_pos isStart]
    refine gives_bind_of_gives expressionGives ?_
    have isColumn := column?_eq_some_iff.mpr ⟨arithmetic, function, arguments, computes, rfl⟩
    simp only [isColumn]
    exact gives_pure_iff.mpr ⟨rfl, rfl⟩

theorem aliasName?_eq_some_iff {token : Token} {name : String} :
    aliasName? token = some name ↔
      token.string? = some name ∨ token.name? = some name := by
  unfold aliasName? Token.string? Token.name?
  cases token.content <;> simp

theorem gives_selectItem_iff {item : SelectItem} :
    Gives (selectItem setting cursor) item after ↔
      ∃ (plain : SelectItem) (place : Cursor),
        Gives (column setting cursor) plain place ∧
          ((Declines setting place (exactly (.keyword .asWord)) ∧ item = plain ∧
              after = place) ∨
            ∃ (word token : Token) (name : String),
              place = after.preceded [word, token] ∧ word.content = .keyword .asWord ∧
                (token.string? = some name ∨ token.name? = some name) ∧
                item = { plain with aliasName := some name }) := by
  unfold selectItem
  constructor
  · intro gives
    obtain ⟨plain, place, _, plainGives, gives⟩ := gives_bind_outcome_iff.mp gives
    refine ⟨plain, place, plainGives, ?_⟩
    rcases (gives_bind_takeIf?_iff setting).mp gives with
      ⟨declines, gives⟩ | ⟨word, found, next, _, rfl, accepted, gives⟩
    · obtain ⟨rfl, rfl⟩ := gives_pure_iff.mp gives
      exact Or.inl ⟨declines, rfl, rfl⟩
    · obtain ⟨isAs, rfl⟩ := exactly_eq_some_iff.mp accepted
      obtain ⟨token, name, last, _, rfl, means, gives⟩ :=
        (gives_bind_take_iff setting).mp gives
      obtain ⟨rfl, rfl⟩ :=
        gives_pure_iff.mp (gives_before_iff.mp (gives_before_iff.mp gives))
      exact
        Or.inr ⟨found, token, name, rfl, isAs, aliasName?_eq_some_iff.mp means, rfl⟩
  · rintro ⟨plain, place, plainGives, goesOn⟩
    rcases goesOn with ⟨declines, rfl, rfl⟩ | ⟨word, token, name, rfl, isAs, means, rfl⟩
    · refine gives_bind_of_gives plainGives ?_
      refine gives_bind_takeIf?_of_declines setting declines ?_
      exact gives_pure_iff.mpr ⟨rfl, rfl⟩
    · rw [Cursor.preceded_cons] at plainGives
      refine gives_bind_of_gives plainGives ?_
      refine gives_bind_takeIf?_of_accepts setting (exactly_of_content isAs) ?_
      refine gives_bind_take_of_accepts setting (aliasName?_eq_some_iff.mpr means) ?_
      exact
        gives_before_iff.mpr (gives_before_iff.mpr (gives_pure_iff.mpr ⟨rfl, rfl⟩))

theorem columnPhrase_of_gives_selectItem
    {item : SelectItem}
    (gives : Gives (selectItem setting cursor) item after) :
    ∃ used, cursor = after.preceded used ∧
      ColumnPhrase (setting.maxDepth - after.depth) used item := by
  obtain ⟨plain, place, plainGives, goesOn⟩ := gives_selectItem_iff.mp gives
  obtain ⟨start, _, _, expression, function, arguments, expressionGives, arithmetic,
    computes, rfl⟩ := gives_column_iff.mp plainGives
  obtain ⟨used, rfl, phrase⟩ := reads_of_gives_arithmetic expressionGives
  rcases goesOn with ⟨_, rfl, rfl⟩ | ⟨word, token, name, rfl, isAs, means, rfl⟩
  · exact ⟨used, rfl, .unnamed phrase arithmetic computes⟩
  · refine ⟨used ++ [word, token], ?_, .named phrase arithmetic computes isAs means⟩
    simp [Cursor.preceded]

theorem gives_column_of_phrase
    {nesting : Nat} {used : List Token} {expression : Expression} {function : String}
    {arguments : List Expression}
    (endsWell : setting.ending = .ok ending)
    (phrase : Phrase nesting .sum used expression)
    (arithmetic : expression.CallArithmetic true)
    (computes : expression.Computes function arguments)
    (isWithin : nesting + after.depth ≤ setting.maxDepth)
    (binds : BindsBelow 5 after) :
    Gives (column setting (after.preceded used)) ⟨function, arguments, none⟩ after := by
  have gives := gives_arithmetic_of_phrase endsWell phrase isWithin binds
  obtain ⟨start, rest, rfl, isStart⟩ := phrase.startsColumn (Nat.le_refl 5) arithmetic
  exact
    gives_column_iff.mpr
      ⟨start, rfl, isStart, expression, function, arguments, gives, arithmetic, computes,
        rfl⟩

theorem gives_selectItem_of_columnPhrase
    {nesting : Nat} {used : List Token} {item : SelectItem}
    (endsWell : setting.ending = .ok ending)
    (column : ColumnPhrase nesting used item)
    (isWithin : nesting + after.depth ≤ setting.maxDepth)
    (ends : ItemEnds after) :
    Gives (selectItem setting (after.preceded used)) item after := by
  cases column with
  | unnamed phrase arithmetic computes =>
      refine gives_selectItem_iff.mpr ⟨_, after, ?_, Or.inl ⟨?_, rfl, rfl⟩⟩
      · exact
          gives_column_of_phrase endsWell phrase arithmetic computes isWithin
            (ends.bindsBelow.mono (by omega))
      · exact ends.declines_as endsWell
  | @named _ word token _ function name arguments phrase arithmetic computes isAs means =>
      rw [Cursor.preceded_append]
      refine
        gives_selectItem_iff.mpr
          ⟨⟨function, arguments, none⟩, after.preceded [word, token], ?_,
            Or.inr ⟨word, token, name, rfl, isAs, means, rfl⟩⟩
      refine gives_column_of_phrase endsWell phrase arithmetic computes isWithin ?_
      rw [bindsBelow_preceded_iff, isAs]
      simp [bindingStrength]

/-- A name is read exactly where a token can stand for it. -/
theorem gives_name_iff {expected : Expectation} {name : String} :
    Gives (take setting cursor (expecting [expected]) Token.name?) name after ↔
      ∃ used, cursor = after.preceded used ∧ NamePhrase used name := by
  rw [gives_take_iff]
  constructor
  · rintro ⟨token, rfl, means⟩
    exact ⟨[token], rfl, .name means⟩
  · rintro ⟨used, rfl, ⟨means⟩⟩
    exact ⟨_, rfl, means⟩

theorem gives_positiveInteger_iff {amount : UInt64} :
    Gives (positiveInteger setting cursor) amount after ↔
      ∃ used, cursor = after.preceded used ∧ AmountPhrase used amount := by
  unfold positiveInteger
  rw [gives_take_iff]
  constructor
  · rintro ⟨token, rfl, means⟩
    exact ⟨[token], rfl, .amount means⟩
  · rintro ⟨used, rfl, ⟨means⟩⟩
    exact ⟨_, rfl, means⟩

/-- An amount is said by a number. -/
theorem exists_number_of_amount? {token : Token} {amount : UInt64}
    (means : token.amount? = some amount) :
    ∃ number, token.content = .number number := by
  obtain ⟨value, isNumber, _⟩ := Token.amount?_eq_some_iff.mp means
  exact ⟨_, isNumber⟩

theorem gives_durationAfter_iff {amount : UInt64} {spec : TimeSpec} :
    Gives (durationAfter setting amount cursor) spec after ↔
      ∃ (unitToken word : Token) (unit : TimeUnit),
        cursor = after.preceded [unitToken, word] ∧ unitToken.timeUnit? = some unit ∧
          word.content = .keyword .agoWord ∧ spec = .ago amount unit := by
  unfold durationAfter
  constructor
  · intro gives
    obtain ⟨unitToken, _, place, _, rfl, accepted, gives⟩ :=
      (gives_bind_take_iff setting).mp gives
    obtain ⟨unit, meansUnit, rfl⟩ := Option.map_eq_some_iff.mp accepted
    obtain ⟨word, last, _, rfl, isAgo, gives⟩ :=
      (gives_bind_take_exactly_iff setting).mp gives
    obtain ⟨rfl, rfl⟩ := gives_pure_iff.mp (gives_before_iff.mp gives)
    exact ⟨unitToken, word, unit, rfl, meansUnit, isAgo, rfl⟩
  · rintro ⟨unitToken, word, unit, rfl, meansUnit, isAgo, rfl⟩
    have accepted : namedUnit? unitToken = some (unit, unitToken) :=
      Option.map_eq_some_iff.mpr ⟨unit, meansUnit, rfl⟩
    rw [Cursor.preceded_cons]
    refine gives_bind_take_of_accepts setting accepted ?_
    refine gives_bind_take_of_accepts setting (exactly_of_content isAgo) ?_
    exact gives_before_iff.mpr (gives_pure_iff.mpr ⟨rfl, rfl⟩)

theorem timeStart?_eq_whole_iff {token : Token} {spec : TimeSpec} :
    timeStart? token = some (.whole spec) ↔ TimePhrase [token] spec := by
  unfold timeStart?
  constructor
  · intro starts
    split at starts
    · rename_i means
      cases starts
      exact .anchor means
    · rename_i means
      cases starts
      exact .timestamp means
    · cases starts
    · cases starts
  · intro phrase
    cases phrase with
    | anchor means => simp [means]
    | timestamp means => simp [means]

theorem timeStart?_eq_amount_iff {token found : Token} :
    timeStart? token = some (.amount found) ↔
      found = token ∧ ∃ number, token.content = .number number := by
  unfold timeStart?
  split <;> simp_all [eq_comm]

theorem gives_timeSpec_of_whole
    {clause : Clause} {spec : TimeSpec} {token : Token}
    (starts : timeStart? token = some (.whole spec)) :
    Gives (timeSpec setting clause (after.preceded [token])) spec after := by
  unfold timeSpec
  exact gives_bind_take_of_accepts setting starts (gives_pure_iff.mpr ⟨rfl, rfl⟩)

theorem gives_timeSpec_of_amount
    {clause : Clause} {spec : TimeSpec} {token : Token} {place : Cursor}
    {amount : UInt64}
    (means : token.amount? = some amount)
    (gives : Gives (durationAfter setting amount place) spec after) :
    Gives (timeSpec setting clause (place.preceded [token])) spec after := by
  have starts := timeStart?_eq_amount_iff.mpr ⟨rfl, exists_number_of_amount? means⟩
  unfold timeSpec
  refine gives_bind_take_of_accepts setting starts ?_
  simp only [means]
  exact gives_before_iff.mpr gives

theorem gives_timeSpec_iff {clause : Clause} {spec : TimeSpec} :
    Gives (timeSpec setting clause cursor) spec after ↔
      ∃ used, cursor = after.preceded used ∧ TimePhrase used spec := by
  constructor
  · intro gives
    unfold timeSpec at gives
    obtain ⟨token, start, place, _, rfl, starts, gives⟩ :=
      (gives_bind_take_iff setting).mp gives
    cases start with
    | whole found =>
        obtain ⟨rfl, rfl⟩ := gives_pure_iff.mp gives
        exact ⟨[token], rfl, timeStart?_eq_whole_iff.mp starts⟩
    | amount found =>
        obtain ⟨rfl, _⟩ := timeStart?_eq_amount_iff.mp starts
        simp only at gives
        split at gives
        · exact (not_gives_throw gives).elim
        · rename_i amount means
          obtain ⟨unitToken, word, unit, rfl, meansUnit, isAgo, rfl⟩ :=
            gives_durationAfter_iff.mp (gives_before_iff.mp gives)
          exact ⟨[found, unitToken, word], rfl, .ago means meansUnit isAgo⟩
  · rintro ⟨used, rfl, phrase⟩
    cases phrase with
    | anchor means =>
        exact gives_timeSpec_of_whole (timeStart?_eq_whole_iff.mpr (.anchor means))
    | timestamp means =>
        exact gives_timeSpec_of_whole (timeStart?_eq_whole_iff.mpr (.timestamp means))
    | @ago token unitToken word amount unit means meansUnit isAgo =>
        rw [Cursor.preceded_cons]
        refine gives_timeSpec_of_amount means (gives_durationAfter_iff.mpr ?_)
        exact ⟨unitToken, word, unit, rfl, meansUnit, isAgo, rfl⟩

theorem bucketStart?_eq_auto_iff {token : Token} :
    bucketStart? token = some .auto ↔ token.content = .keyword .autoWord := by
  unfold bucketStart?
  split <;> simp_all

theorem bucketStart?_eq_amount_iff {token found : Token} :
    bucketStart? token = some (.amount found) ↔
      found = token ∧ ∃ number, token.content = .number number := by
  unfold bucketStart?
  split <;> simp_all [eq_comm]

theorem gives_bucketing_iff {bucket : Bucketing} :
    Gives (bucketing setting cursor) bucket after ↔
      ∃ used, cursor = after.preceded used ∧ BucketPhrase used bucket := by
  unfold bucketing
  constructor
  · intro gives
    obtain ⟨token, start, place, _, rfl, starts, gives⟩ :=
      (gives_bind_take_iff setting).mp gives
    cases start with
    | auto =>
        obtain ⟨rfl, rfl⟩ := gives_pure_iff.mp gives
        exact ⟨[token], rfl, .auto (bucketStart?_eq_auto_iff.mp starts)⟩
    | amount found =>
        obtain ⟨rfl, _⟩ := bucketStart?_eq_amount_iff.mp starts
        simp only at gives
        split at gives
        · exact (not_gives_throw gives).elim
        · rename_i amount means
          obtain ⟨unitToken, unit, last, _, rfl, meansUnit, gives⟩ :=
            (gives_bind_take_iff setting).mp gives
          obtain ⟨rfl, rfl⟩ := gives_pure_iff.mp (gives_before_iff.mp gives)
          exact ⟨[found, unitToken], rfl, .every means meansUnit⟩
  · rintro ⟨used, rfl, phrase⟩
    cases phrase with
    | @auto token means =>
        refine gives_bind_take_of_accepts setting (bucketStart?_eq_auto_iff.mpr means) ?_
        exact gives_pure_iff.mpr ⟨rfl, rfl⟩
    | @every token unitToken amount unit means meansUnit =>
        have starts := bucketStart?_eq_amount_iff.mpr ⟨rfl, exists_number_of_amount? means⟩
        rw [Cursor.preceded_cons]
        refine gives_bind_take_of_accepts setting starts ?_
        simp only [means]
        refine gives_bind_take_of_accepts setting meansUnit ?_
        exact gives_before_iff.mpr (gives_pure_iff.mpr ⟨rfl, rfl⟩)

end Bodies

end EventQuery.Grammar
