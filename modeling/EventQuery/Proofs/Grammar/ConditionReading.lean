import EventQuery.Proofs.Grammar.OperandReading

/-!
# What the readers of conditions give

When each reader of the loose half of the expression grammar succeeds, up to
`expression` itself.  A place where something was read has a token ahead, so
looking at the first token of an operand never fails by itself.
-/

namespace EventQuery.Grammar

variable (setting : Setting)

theorem exists_peek_of_gives
    {α : Type} {value : α} {cursor after : Cursor}
    {outcome : Outcome α cursor.size}
    (gives : Gives outcome value after) :
    ∃ token, peek setting cursor = .ok token := by
  have isShorter := gives.size_lt
  rcases cursor.eq_end_or_preceded with isEnd | ⟨token, place, rfl⟩
  · simp [Cursor.size, isEnd] at isShorter
  · exact ⟨token, rfl⟩

theorem gives_bind_peek_iff
    {α : Type} {bound : Nat} {value : α} {cursor after : Cursor}
    {next : Token → Outcome α bound} :
    Gives (peek setting cursor >>= next) value after ↔
      ∃ token, peek setting cursor = .ok token ∧ Gives (next token) value after :=
  gives_bind_iff

/-! ## Comparisons and tests -/

theorem comparison?_eq_some_iff {token : Token} {operator : Comparison} :
    comparison? token = some operator ↔ token.content = .comparison operator := by
  unfold comparison?
  split <;> simp_all

theorem comparison?_eq_none_iff {token : Token} :
    comparison? token = none ↔
      ∀ operator : Comparison, token.content ≠ .comparison operator := by
  unfold comparison?
  split <;> simp_all

theorem test?_eq_some_iff {token : Token} {test : Test} :
    test? token = some test ↔ token.content = .keyword test.keyword := by
  unfold test?
  cases test <;> split <;> simp_all [Test.keyword]

theorem test?_eq_none_iff {token : Token} :
    test? token = none ↔
      token.content ≠ .keyword .inWord ∧ token.content ≠ .keyword .likeWord := by
  unfold test?
  split <;> simp_all

theorem testedAttribute_eq_ok_iff
    {start : Token} {left : Expression} {test : Test} {name : String} :
    testedAttribute start left test = .ok name ↔ left = .field name := by
  unfold testedAttribute
  split
  · constructor
    · intro equal
      cases equal
      rfl
    · intro equal
      cases equal
      rfl
  · rename_i isNoField
    constructor
    · intro equal
      cases equal
    · intro equal
      exact absurd equal (isNoField name)

/-- The body of a test is read exactly where it stands. -/
theorem gives_testBody_iff
    {name : String} {negated : Bool} {test : Test}
    {cursor after : Cursor} {value : Expression} :
    Gives (testBody setting name negated test cursor) value after ↔
      (test = .membership ∧
          ∃ values, value = .member name values negated ∧
            Gives (literalList setting cursor) values after) ∨
        (test = .pattern ∧
          ∃ (token : Token) (pattern : String),
            cursor = after.preceded [token] ∧ token.content = .string pattern ∧
              value = .matching name pattern negated) := by
  cases test with
  | membership =>
      simp only [testBody, true_and, reduceCtorEq, false_and, or_false]
      constructor
      · intro gives
        obtain ⟨values, place, _, valuesGive, gives⟩ := gives_bind_outcome_iff.mp gives
        obtain ⟨rfl, rfl⟩ := gives_pure_iff.mp gives
        exact ⟨values, rfl, valuesGive⟩
      · rintro ⟨values, rfl, valuesGive⟩
        exact gives_bind_of_gives valuesGive (gives_pure_iff.mpr ⟨rfl, rfl⟩)
  | pattern =>
      simp only [testBody, true_and, reduceCtorEq, false_and, false_or]
      constructor
      · intro gives
        obtain ⟨token, pattern, place, _, rfl, means, gives⟩ :=
          (gives_bind_take_iff setting).mp gives
        obtain ⟨rfl, rfl⟩ := gives_pure_iff.mp gives
        exact ⟨token, pattern, rfl, Token.string?_eq_some_iff.mp means, rfl⟩
      · rintro ⟨token, pattern, rfl, means, rfl⟩
        refine gives_bind_take_of_accepts setting (Token.string?_eq_some_iff.mpr means) ?_
        exact gives_pure_iff.mpr ⟨rfl, rfl⟩

/-- The keyword of a test and its body are a test phrase. -/
theorem exists_testPhrase_of_keyword
    {name : String} {negated : Bool} {words : List Token}
    (mayNegate : MaybeNot negated words)
    {value : Expression} {after place : Cursor} {word : Token} {test : Test}
    (isWord : word.content = .keyword test.keyword)
    (gives : Gives (testBody setting name negated test place) value after) :
    ∃ used, place = after.preceded used ∧
      TestPhrase name (words ++ word :: used) value := by
  rcases (gives_testBody_iff setting).mp gives with
    ⟨rfl, values, rfl, valuesGive⟩ | ⟨rfl, token, pattern, rfl, means, rfl⟩
  · obtain ⟨opening, closing, used, rfl, opens, separated, closes⟩ :=
      (gives_literalList_iff setting).mp valuesGive
    exact ⟨_, rfl, .membership mayNegate isWord opens separated closes⟩
  · exact ⟨[token], rfl, .pattern mayNegate isWord means⟩

/-- The words of a test phrase are its negation, its keyword and its body. -/
theorem exists_test_of_testPhrase
    {name : String} {tokens : List Token} {value : Expression} {after : Cursor}
    (phrase : TestPhrase name tokens value) :
    ∃ (negated : Bool) (words : List Token) (word : Token) (test : Test)
      (used : List Token),
      tokens = words ++ word :: used ∧ MaybeNot negated words ∧
        word.content = .keyword test.keyword ∧
        Gives (testBody setting name negated test (after.preceded used)) value after := by
  cases phrase with
  | membership mayNegate isIn opens literals closes =>
      refine ⟨_, _, _, .membership, _, rfl, mayNegate, isIn, ?_⟩
      refine (gives_testBody_iff setting).mpr (Or.inl ⟨rfl, _, rfl, ?_⟩)
      exact
        (gives_literalList_iff setting).mpr
          ⟨_, _, _, rfl, opens, literals, closes⟩
  | pattern mayNegate isLike means =>
      refine ⟨_, _, _, .pattern, _, rfl, mayNegate, isLike, ?_⟩
      exact
        (gives_testBody_iff setting).mpr (Or.inr ⟨rfl, _, _, rfl, means, rfl⟩)

section TestAfter

variable {name : String} {start : Token} {test : Test} {word notWord : Token}
    {place after : Cursor} {value : Expression}

theorem gives_testAfter_of_plain
    (isWord : word.content = .keyword test.keyword)
    (gives : Gives (testBody setting name false test place) value after) :
    Gives (testAfter setting start (.field name) (place.preceded [word])) value after := by
  have isNoNot : exactly (.keyword .notWord) word = none := by
    rw [exactly_eq_none_iff, isWord]
    cases test <;> simp [Test.keyword]
  have tested : testedAttribute start (.field name) test = .ok name := rfl
  unfold testAfter
  refine gives_bind_takeIf?_of_declines setting ((declines_preceded_iff setting).mpr isNoNot) ?_
  refine gives_bind_takeIf?_of_accepts setting (test?_eq_some_iff.mpr isWord) ?_
  refine gives_bind_iff.mpr ⟨name, tested, ?_⟩
  exact gives_relaxed_iff.mpr (gives_before_iff.mpr gives)

theorem gives_testAfter_of_negated
    (isNot : notWord.content = .keyword .notWord)
    (isWord : word.content = .keyword test.keyword)
    (gives : Gives (testBody setting name true test place) value after) :
    Gives (testAfter setting start (.field name) ((place.preceded [word]).preceded [notWord]))
      value after := by
  have tested : testedAttribute start (.field name) test = .ok name := rfl
  unfold testAfter
  refine gives_bind_takeIf?_of_accepts setting (exactly_of_content isNot) ?_
  refine gives_bind_take_of_accepts setting (test?_eq_some_iff.mpr isWord) ?_
  refine gives_bind_iff.mpr ⟨name, tested, ?_⟩
  exact gives_relaxed_iff.mpr (gives_before_iff.mpr (gives_before_iff.mpr gives))

/-- A test phrase is read where it stands behind its attribute. -/
theorem gives_testAfter_of_testPhrase {used : List Token}
    (phrase : TestPhrase name used value) :
    Gives (testAfter setting start (.field name) (after.preceded used)) value after := by
  obtain ⟨negated, words, word, test, body, rfl, mayNegate, isWord, bodyGives⟩ :=
    @exists_test_of_testPhrase setting name used value after phrase
  cases mayNegate with
  | plain => exact gives_testAfter_of_plain setting isWord bodyGives
  | negated isNot => exact gives_testAfter_of_negated setting isNot isWord bodyGives

/-- What follows a value is nothing, or a test of the attribute that it is. -/
theorem gives_testAfter_iff {left : Expression} {cursor : Cursor} :
    Gives (testAfter setting start left cursor) value after ↔
      (Declines setting cursor (exactly (.keyword .notWord)) ∧
          Declines setting cursor test? ∧ value = left ∧ after = cursor) ∨
        ∃ (name : String) (used : List Token),
          left = .field name ∧ cursor = after.preceded used ∧
            TestPhrase name used value := by
  constructor
  · intro gives
    unfold testAfter at gives
    rcases (gives_bind_takeIf?_iff setting).mp gives with
      ⟨declinesNot, gives⟩ | ⟨word, found, place, _, rfl, accepted, gives⟩
    · rcases (gives_bind_takeIf?_iff setting).mp gives with
        ⟨declinesTest, gives⟩ | ⟨word, test, place, _, rfl, accepted, gives⟩
      · obtain ⟨rfl, rfl⟩ := gives_pure_iff.mp gives
        exact Or.inl ⟨declinesNot, declinesTest, rfl, rfl⟩
      · obtain ⟨name, tested, gives⟩ := gives_bind_iff.mp gives
        have bodyGives := gives_before_iff.mp (gives_relaxed_iff.mp gives)
        obtain ⟨used, equal, phrase⟩ :=
          exists_testPhrase_of_keyword setting .plain (test?_eq_some_iff.mp accepted)
            bodyGives
        obtain rfl : place = after.preceded used := equal
        exact
          Or.inr
            ⟨name, word :: used, testedAttribute_eq_ok_iff.mp tested, rfl, phrase⟩
    · obtain ⟨isNot, rfl⟩ := exactly_eq_some_iff.mp accepted
      obtain ⟨word, test, next, _, rfl, isTest, gives⟩ :=
        (gives_bind_take_iff setting).mp gives
      obtain ⟨name, tested, gives⟩ := gives_bind_iff.mp gives
      have bodyGives :=
        gives_before_iff.mp (gives_before_iff.mp (gives_relaxed_iff.mp gives))
      obtain ⟨used, equal, phrase⟩ :=
        exists_testPhrase_of_keyword setting (.negated isNot)
          (test?_eq_some_iff.mp isTest) bodyGives
      obtain rfl : next = after.preceded used := equal
      exact
        Or.inr
          ⟨name, found :: word :: used, testedAttribute_eq_ok_iff.mp tested, rfl,
            phrase⟩
  · rintro (⟨declinesNot, declinesTest, rfl, rfl⟩ | ⟨name, used, rfl, rfl, phrase⟩)
    · refine gives_bind_takeIf?_of_declines setting declinesNot ?_
      refine gives_bind_takeIf?_of_declines setting declinesTest ?_
      exact gives_pure_iff.mpr ⟨rfl, rfl⟩
    · exact gives_testAfter_of_testPhrase setting phrase

end TestAfter

/-- A comparison is a value and then a second one, a test, or nothing. -/
theorem gives_comparison_iff
    {context : Context}
    {cursor after : Cursor}
    {value : Expression} :
    Gives (comparison setting context cursor (nestedFrom setting cursor)) value after ↔
      ∃ (start : Token) (left : Expression) (place : Cursor),
        peek setting cursor = .ok start ∧ Climbs setting 0 context cursor left place ∧
          ((∃ (sign : Token) (operator : Comparison) (next : Cursor) (right : Expression),
              place = next.preceded [sign] ∧ sign.content = .comparison operator ∧
                value = .binary (.comparison operator) left right ∧
                Climbs setting 0 .value next right after) ∨
            (Declines setting place comparison? ∧
              Gives (testAfter setting start left place) value after)) := by
  unfold comparison
  rw [gives_bind_peek_iff]
  constructor
  · rintro ⟨start, ahead, gives⟩
    obtain ⟨left, place, _, leftGives, gives⟩ := gives_bind_outcome_iff.mp gives
    refine ⟨start, left, place, ahead, (gives_arithmetic_iff setting).mp leftGives, ?_⟩
    rcases (gives_bind_takeIf?_iff setting).mp gives with
      ⟨declines, gives⟩ | ⟨sign, operator, next, _, rfl, accepted, gives⟩
    · exact Or.inr ⟨declines, gives_beforeRest_iff.mp gives⟩
    · obtain ⟨right, last, _, rightGives, gives⟩ := gives_bind_outcome_iff.mp gives
      obtain ⟨rfl, rfl⟩ :=
        gives_pure_iff.mp (gives_before_iff.mp (gives_before_iff.mp gives))
      exact
        Or.inl
          ⟨sign, operator, next, right, rfl, comparison?_eq_some_iff.mp accepted, rfl,
            (gives_arithmetic_iff setting).mp rightGives⟩
  · rintro ⟨start, left, place, ahead, leftClimbs, goesOn⟩
    refine ⟨start, ahead, ?_⟩
    refine gives_bind_of_gives ((gives_arithmetic_iff setting).mpr leftClimbs) ?_
    rcases goesOn with
      ⟨sign, operator, next, right, rfl, isSign, rfl, rightClimbs⟩ | ⟨declines, gives⟩
    · refine gives_bind_takeIf?_of_accepts setting (comparison?_eq_some_iff.mpr isSign) ?_
      refine
        gives_bind_of_gives ((gives_arithmetic_iff setting).mpr rightClimbs) ?_
      exact
        gives_before_iff.mpr (gives_before_iff.mpr (gives_pure_iff.mpr ⟨rfl, rfl⟩))
    · exact
        gives_bind_takeIf?_of_declines setting declines (gives_beforeRest_iff.mpr gives)

/-! ## Negations and connectives -/

theorem checkCondition_eq_ok_iff
    {context : Context} {start : Token} {expression : Expression} {result : Unit} :
    checkCondition context start expression = .ok result ↔
      context = .value ∨ expression.isCondition = true := by
  unfold checkCondition
  split <;> rename_i holds
  · exact ⟨fun _ => holds, fun _ => rfl⟩
  · exact ⟨fun equal => (by cases equal), fun holds' => absurd holds' holds⟩

theorem gives_bind_checkCondition_iff
    {α : Type} {bound : Nat} {value : α} {after : Cursor}
    {context : Context} {start : Token} {expression : Expression}
    {next : Unit → Outcome α bound} :
    Gives (checkCondition context start expression >>= next) value after ↔
      (context = .value ∨ expression.isCondition = true) ∧
        Gives (next ()) value after := by
  rw [gives_bind_iff]
  constructor
  · rintro ⟨_, checked, gives⟩
    exact ⟨checkCondition_eq_ok_iff.mp checked, gives⟩
  · rintro ⟨holds, gives⟩
    exact ⟨(), checkCondition_eq_ok_iff.mpr holds, gives⟩

/-- A negation is a comparison, or the word NOT and a negation. -/
theorem gives_negation_iff
    {context : Context}
    {cursor after : Cursor}
    {value : Expression} :
    Gives (negation setting context cursor (nestedFrom setting cursor)) value after ↔
      (∃ (word : Token) (place last : Cursor) (operand : Expression),
          cursor = place.preceded [word] ∧ word.content = .keyword .notWord ∧
            place.depth < setting.maxDepth ∧ after = last.shallower ∧
            value = .unary .not operand ∧
            Gives
              (negation setting context.afterNot place.deeper
                (nestedFrom setting place.deeper))
              operand last) ∨
        (Declines setting cursor (exactly (.keyword .notWord)) ∧
          (context = .condition → value.isCondition = true) ∧
          Gives (comparison setting context cursor (nestedFrom setting cursor))
            value after) := by
  rw [negation, gives_bind_peek_iff]
  constructor
  · rintro ⟨start, _, gives⟩
    rcases (gives_bind_takeIf?_iff setting).mp gives with
      ⟨declines, gives⟩ | ⟨word, found, place, _, rfl, accepted, gives⟩
    · obtain ⟨result, place, _, resultGives, gives⟩ := gives_bind_outcome_iff.mp gives
      by_cases isCondition : context = .condition
      · rw [if_pos isCondition] at gives
        obtain ⟨holds, gives⟩ := gives_bind_checkCondition_iff.mp gives
        obtain ⟨rfl, rfl⟩ := gives_pure_iff.mp gives
        have holds' : result.isCondition = true := by
          simpa [isCondition] using holds
        exact Or.inr ⟨declines, fun _ => holds', resultGives⟩
      · rw [if_neg isCondition] at gives
        obtain ⟨rfl, rfl⟩ := gives_pure_iff.mp gives
        exact Or.inr ⟨declines, fun isOne => absurd isOne isCondition, resultGives⟩
    · obtain ⟨isNot, rfl⟩ := exactly_eq_some_iff.mp accepted
      obtain ⟨isShallow, gives⟩ := (gives_bind_checkDepth_iff setting).mp gives
      obtain ⟨operand, last, _, operandGives, gives⟩ := gives_bind_outcome_iff.mp gives
      obtain ⟨rfl, rfl⟩ := gives_pure_iff.mp (gives_before_iff.mp gives)
      exact
        Or.inl ⟨found, place, last, operand, rfl, isNot, isShallow, rfl, rfl, operandGives⟩
  · rintro (⟨word, place, last, operand, rfl, isNot, isShallow, rfl, rfl, operandGives⟩ |
      ⟨declines, holds, gives⟩)
    · refine ⟨word, rfl, ?_⟩
      refine gives_bind_takeIf?_of_accepts setting (exactly_of_content isNot) ?_
      refine (gives_bind_checkDepth_iff setting).mpr ⟨isShallow, ?_⟩
      refine gives_bind_of_gives operandGives ?_
      exact gives_before_iff.mpr (gives_pure_iff.mpr ⟨rfl, rfl⟩)
    · obtain ⟨start, ahead⟩ := exists_peek_of_gives setting gives
      refine ⟨start, ahead, ?_⟩
      refine gives_bind_takeIf?_of_declines setting declines ?_
      refine gives_bind_of_gives gives ?_
      by_cases isCondition : context = .condition
      · rw [if_pos isCondition]
        refine gives_bind_checkCondition_iff.mpr ⟨Or.inr (holds isCondition), ?_⟩
        exact gives_pure_iff.mpr ⟨rfl, rfl⟩
      · rw [if_neg isCondition]
        exact gives_pure_iff.mpr ⟨rfl, rfl⟩

/-- A chain goes on while its connective follows. -/
theorem gives_chainAfter_iff
    {connective : Connective} {context : Context} {operand : Reader}
    {start : Token} {left value : Expression}
    {cursor after : Cursor} :
    Gives
        (chainAfter setting connective context operand start left cursor
          (nestedFrom setting cursor))
        value after ↔
      (Declines setting cursor (exactly (.keyword (connectiveWord connective))) ∧
          value = left ∧ after = cursor) ∨
        ∃ (word : Token) (place behind : Cursor) (right : Expression),
          cursor = place.preceded [word] ∧
            word.content = .keyword (connectiveWord connective) ∧
            (context = .value ∨ left.isCondition = true) ∧
            (context = .value ∨ right.isCondition = true) ∧
            Gives (operand place (nestedFrom setting place)) right behind ∧
            Gives
              (chainAfter setting connective context operand start
                (.binary (.logical connective) left right) behind
                (nestedFrom setting behind))
              value after := by
  rw [chainAfter]
  constructor
  · intro gives
    rcases (gives_bind_takeIf?_iff setting).mp gives with
      ⟨declines, gives⟩ | ⟨word, found, place, _, rfl, accepted, gives⟩
    · obtain ⟨rfl, rfl⟩ := gives_pure_iff.mp gives
      exact Or.inl ⟨declines, rfl, rfl⟩
    · obtain ⟨isWord, rfl⟩ := exactly_eq_some_iff.mp accepted
      obtain ⟨leftHolds, gives⟩ := gives_bind_checkCondition_iff.mp gives
      obtain ⟨rightStart, _, gives⟩ := (gives_bind_peek_iff setting).mp gives
      obtain ⟨right, behind, _, rightGives, gives⟩ := gives_bind_outcome_iff.mp gives
      obtain ⟨rightHolds, gives⟩ := gives_bind_checkCondition_iff.mp gives
      exact
        Or.inr
          ⟨found, place, behind, right, rfl, isWord, leftHolds, rightHolds, rightGives,
            gives_beforeRest_iff.mp
              (gives_before_iff.mp (gives_relaxed_iff.mp gives))⟩
  · rintro (⟨declines, rfl, rfl⟩ |
      ⟨word, place, behind, right, rfl, isWord, leftHolds, rightHolds, rightGives, gives⟩)
    · refine gives_bind_takeIf?_of_declines setting declines ?_
      exact gives_pure_iff.mpr ⟨rfl, rfl⟩
    · obtain ⟨rightStart, ahead⟩ := exists_peek_of_gives setting rightGives
      refine gives_bind_takeIf?_of_accepts setting (exactly_of_content isWord) ?_
      refine gives_bind_checkCondition_iff.mpr ⟨leftHolds, ?_⟩
      refine (gives_bind_peek_iff setting).mpr ⟨rightStart, ahead, ?_⟩
      refine gives_bind_of_gives rightGives ?_
      refine gives_bind_checkCondition_iff.mpr ⟨rightHolds, ?_⟩
      exact
        gives_relaxed_iff.mpr (gives_before_iff.mpr (gives_beforeRest_iff.mpr gives))

theorem gives_chain_iff
    {connective : Connective} {context : Context} {operand : Reader}
    {cursor after : Cursor} {value : Expression} :
    Gives (chain setting connective context operand cursor (nestedFrom setting cursor))
        value after ↔
      ∃ (start : Token) (first : Expression) (place : Cursor),
        peek setting cursor = .ok start ∧
          Gives (operand cursor (nestedFrom setting cursor)) first place ∧
          Gives
            (chainAfter setting connective context operand start first place
              (nestedFrom setting place))
            value after := by
  unfold chain
  rw [gives_bind_peek_iff]
  constructor
  · rintro ⟨start, ahead, gives⟩
    obtain ⟨first, place, _, firstGives, gives⟩ := gives_bind_outcome_iff.mp gives
    exact ⟨start, first, place, ahead, firstGives, gives_beforeRest_iff.mp gives⟩
  · rintro ⟨start, first, place, ahead, firstGives, gives⟩
    refine ⟨start, ahead, ?_⟩
    exact gives_bind_of_gives firstGives (gives_beforeRest_iff.mpr gives)

/-- Expressions are read by the reader of disjunctions, at every depth. -/
theorem expression_eq_disjunction (context : Context) (cursor : Cursor) :
    expression setting context cursor =
      disjunction setting context cursor (nestedFrom setting cursor) := by
  rw [expression]
  rfl

end EventQuery.Grammar
