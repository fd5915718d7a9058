import EventQuery.Proofs.Grammar.ConditionReading

/-!
# Whatever is read is a phrase

Soundness of the expression grammar: the tokens that a reader used up are a
phrase of its level that says the value it gave, and the value has the shape
that its context asks for.  The readers of nested expressions are covered by a
hypothesis about all places with fewer tokens ahead, which the induction at the
end of the module provides.
-/

namespace EventQuery.Grammar

variable (setting : Setting)

/-! ## What is said about a reader -/

/-- The shape that a context asks of an expression. -/
def Context.Admits : Context → Expression → Prop
  | .value, _ => True
  | .condition, expression =>
      expression.isCondition = true ∧ expression.joinsConditions = true
  | .group, expression => expression.joinsConditions = true

/-- The tokens between two places are a phrase, nested no deeper than is left there. -/
def Reads (level : Level) (cursor : Cursor) (value : Expression)
    (after : Cursor) : Prop :=
  ∃ used, cursor = after.preceded used ∧
    Phrase (setting.maxDepth - after.depth) level used value

/-- Every expression that is read with fewer tokens ahead is a phrase of its context. -/
def SoundBelow (bound : Nat) : Prop :=
  ∀ ⦃context : Context⦄ ⦃cursor after : Cursor⦄ ⦃value : Expression⦄,
    cursor.size < bound →
      Gives (expression setting context cursor) value after →
        Reads setting .disjunction cursor value after ∧ context.Admits value

theorem Context.admits_of_joinsConditions
    {context : Context} {expression : Expression}
    (joins : expression.joinsConditions = true) :
    context.inGroup.Admits expression := by
  cases context
  · trivial
  · exact joins
  · exact joins

/-- A condition and its context agree on an expression, if a group there would. -/
theorem Context.admits_of_inGroup
    {context : Context} {expression : Expression}
    (admits : context.inGroup.Admits expression)
    (isCondition : context = .condition → expression.isCondition = true) :
    context.Admits expression := by
  cases context
  · trivial
  · exact ⟨isCondition rfl, admits⟩
  · exact admits

theorem Context.inGroup_admits
    {context : Context} {expression : Expression}
    (admits : context.Admits expression) :
    context.inGroup.Admits expression := by
  cases context
  · trivial
  · exact admits.2
  · exact admits

variable {setting}

theorem Reads.loosenTo
    {level loose : Level} {cursor after : Cursor} {value : Expression}
    (reads : Reads setting level cursor value after)
    (isLooser : loose.strength ≤ level.strength) :
    Reads setting loose cursor value after := by
  obtain ⟨used, equal, phrase⟩ := reads
  exact ⟨used, equal, phrase.loosenTo isLooser⟩

/-- A phrase that was read one level deeper, as seen from outside. -/
theorem Reads.fromOutside
    {level : Level} {place last : Cursor} {value : Expression}
    (reads : Reads setting level place.deeper value last)
    (isShallow : place.depth < setting.maxDepth) :
    ∃ (used : List Token) (nesting : Nat),
      place = last.shallower.preceded used ∧ Phrase nesting level used value ∧
        setting.maxDepth - last.shallower.depth = nesting + 1 := by
  obtain ⟨used, equal, phrase⟩ := reads
  have depths := congrArg Cursor.depth equal
  refine ⟨used, _, Cursor.eq_preceded_of_deeper_eq equal, phrase, ?_⟩
  simp only [Cursor.depth_deeper, Cursor.depth_preceded] at depths
  simp only [Cursor.shallower]
  omega

/-! ## Operands -/

theorem reads_of_literalPhrase
    {place : Cursor} {token : Token} {constant : Literal}
    (phrase : LiteralPhrase [token] constant) :
    Reads setting .primary (place.preceded [token]) (.literal constant) place := by
  refine ⟨[token], rfl, ?_⟩
  cases phrase with
  | string means => exact .string means
  | number means => exact .number means
  | boolean means => exact .boolean means

variable {bound : Nat}

theorem reads_of_gives_argument
    (sound : SoundBelow setting bound)
    {cursor after : Cursor} {value : Expression}
    (isWithin : cursor.size < bound)
    (gives :
      Gives (argument setting cursor (nestedExpression setting (cursor.size + 1)))
        value after) :
    Reads setting .argument cursor value after := by
  rcases of_gives_argument setting gives with ⟨token, rfl, isStar, rfl⟩ | given
  · exact ⟨[token], rfl, .star isStar⟩
  · exact (sound isWithin given).1.loosenTo (by simp [Level.strength])

/-- What stands between the parentheses of a call, through the closing one. -/
theorem phrases_of_gives_arguments
    (sound : SoundBelow setting bound)
    {cursor after : Cursor} {values : List Expression}
    (isWithin : cursor.size < bound)
    (gives :
      Gives (arguments setting cursor (nestedExpression setting (cursor.size + 1)))
        values after) :
    ∃ (used : List Token) (closing : Token),
      cursor = after.preceded (used ++ [closing]) ∧
        closing.content = .rightParenthesis ∧
        ((used = [] ∧ values = []) ∨
          Arguments (setting.maxDepth - after.depth) used values) := by
  rcases (gives_arguments_iff setting).mp gives with
    ⟨closing, rfl, closes, rfl⟩ | ⟨_, listGives⟩
  · exact ⟨[], closing, rfl, closes, Or.inl ⟨rfl, rfl⟩⟩
  · obtain ⟨used, closing, equal, separated, closes⟩ :=
      @separated_of_gives_closedList setting _ _ _
        (Phrase (setting.maxDepth - cursor.depth) .argument) cursor.depth
        (by
          intro place next isWithin' value atDepth itemGives
          obtain ⟨used, rfl, phrase⟩ :=
            reads_of_gives_argument sound (Nat.lt_of_le_of_lt isWithin' isWithin)
              itemGives
          rw [Cursor.depth_preceded] at atDepth
          rw [← atDepth]
          exact ⟨used, rfl, phrase⟩)
        cursor after _ values rfl listGives
    have sameDepth : cursor.depth = after.depth := by rw [equal, Cursor.depth_preceded]
    rw [sameDepth] at separated
    exact ⟨used, closing, equal, closes, Or.inr (arguments_of_separated separated)⟩

theorem reads_of_gives_primary
    (sound : SoundBelow setting bound)
    {context : Context} {cursor after : Cursor} {value : Expression}
    (isWithin : cursor.size ≤ bound)
    (gives : Gives (primary setting context cursor (nestedFrom setting cursor)) value after) :
    Reads setting .primary cursor value after ∧ context.inGroup.Admits value := by
  obtain ⟨token, place, rfl, cases⟩ := (gives_primary_iff setting).mp gives
  have isLater : place.size < bound := by
    rw [Cursor.size_preceded, List.length_singleton] at isWithin
    omega
  rcases cases with
    ⟨constant, phrase, rfl, rfl⟩ |
    ⟨opens, isShallow, closing, last, closes, rfl, innerGives⟩ |
    ⟨name, isNoBoolean, means, ⟨_, rfl, rfl⟩ |
      ⟨opening, inner, last, values, rfl, opens, isShallow, rfl, rfl, valuesGive⟩⟩
  · exact ⟨reads_of_literalPhrase phrase, Context.admits_of_joinsConditions rfl⟩
  · obtain ⟨innerReads, admits⟩ := sound (by exact isLater) innerGives
    obtain ⟨used, nesting, rfl, phrase, depth⟩ := innerReads.fromOutside isShallow
    refine ⟨⟨token :: (used ++ [closing]), by simp [Cursor.preceded, Cursor.shallower], ?_⟩, admits⟩
    have depth' : setting.maxDepth - last.shallower.depth = nesting + 1 := depth
    rw [depth']
    exact .group opens phrase closes
  · exact
      ⟨⟨[token], rfl, .field isNoBoolean means⟩, Context.admits_of_joinsConditions rfl⟩
  · have innerLater : inner.deeper.size < bound := by
      rw [Cursor.size_preceded, List.length_singleton] at isLater
      rw [Cursor.size_deeper]
      omega
    obtain ⟨used, closing, equal, closes, phrases⟩ :=
      phrases_of_gives_arguments sound innerLater valuesGive
    have depths := congrArg Cursor.depth equal
    have back := Cursor.eq_preceded_of_deeper_eq equal
    have depth :
        setting.maxDepth - last.shallower.depth =
          (setting.maxDepth - last.depth) + 1 := by
      simp only [Cursor.depth_deeper, Cursor.depth_preceded] at depths isShallow
      simp only [Cursor.shallower]
      omega
    refine
      ⟨⟨token :: opening :: (used ++ [closing]), ?_, ?_⟩,
        Context.admits_of_joinsConditions rfl⟩
    · rw [back]
      rfl
    · rw [depth]
      rcases phrases with ⟨rfl, rfl⟩ | phrases
      · exact .emptyCall isNoBoolean means opens closes
      · exact .call isNoBoolean means opens phrases closes

/-- A minus sign in front of a phrase makes the opposite literal or an operator. -/
theorem phrase_negated
    {nesting : Nat} {tokens : List Token} {sign : Token} {operand : Expression}
    (isMinus : sign.content = .arithmetic .subtract)
    (phrase : Phrase nesting .signed tokens operand) :
    Phrase (nesting + 1) .signed (sign :: tokens) (negated operand) := by
  unfold negated
  split
  · rename_i value
    cases isOpposite : value.negate? with
    | some opposite => exact .opposite isMinus phrase isOpposite
    | none =>
        refine .minus isMinus phrase ?_
        rintro _ ⟨⟩
        exact isOpposite
  · rename_i isNoNumber
    refine .minus isMinus phrase ?_
    rintro value rfl
    exact absurd rfl (isNoNumber value)

theorem joinsConditions_negated (operand : Expression) :
    (negated operand).joinsConditions = true := by
  unfold negated
  split
  · split <;> rfl
  · rfl

theorem reads_of_gives_signed
    (sound : SoundBelow setting bound)
    {context : Context} {cursor after : Cursor} {value : Expression}
    (isWithin : cursor.size ≤ bound)
    (gives : Gives (signed setting context cursor (nestedFrom setting cursor)) value after) :
    Reads setting .signed cursor value after ∧ context.inGroup.Admits value := by
  induction size : cursor.size using Nat.strongRecOn
    generalizing context cursor after value with
  | _ size ih =>
      rcases (gives_signed_iff setting).mp gives with
        ⟨_, primaryGives⟩ |
        ⟨sign, place, last, operand, rfl, isMinus, isShallow, rfl, rfl, operandGives⟩
      · obtain ⟨reads, admits⟩ := reads_of_gives_primary sound isWithin primaryGives
        exact ⟨reads.loosenTo (by simp [Level.strength]), admits⟩
      · rw [Cursor.size_preceded, List.length_singleton] at size isWithin
        obtain ⟨reads, _⟩ :=
          ih place.deeper.size (by rw [Cursor.size_deeper]; omega)
            (by rw [Cursor.size_deeper]; omega) operandGives rfl
        obtain ⟨used, nesting, rfl, phrase, depth⟩ := reads.fromOutside isShallow
        refine ⟨⟨sign :: used, rfl, ?_⟩, ?_⟩
        · rw [depth]
          exact phrase_negated isMinus phrase
        · exact Context.admits_of_joinsConditions (joinsConditions_negated operand)

/-! ## Arithmetic -/

/-- The operator at a place, if there is one, binds less tightly than a limit. -/
def OperatorBelow (limit : Nat) (cursor : Cursor) : Prop :=
  ∀ ⦃token : Token⦄ ⦃place : Cursor⦄ ⦃operator : Arithmetic⦄,
    cursor = place.preceded [token] → token.content = .arithmetic operator →
      operator.precedence < limit

theorem operatorBelow_of_declines
    {least : Nat} {cursor : Cursor}
    (declines : Declines setting cursor (operatorAtLeast? least)) :
    OperatorBelow least cursor := by
  rintro token place operator rfl isSign
  have rejected := (declines_preceded_iff setting).mp declines
  simpa [operatorAtLeast?, isSign] using rejected

theorem operatorBelow_of_gives_arithmeticAfter
    {least : Nat} {left value : Expression} {cursor after : Cursor}
    (gives :
      Gives (arithmeticAfter setting least left cursor (nestedFrom setting cursor))
        value after) :
    OperatorBelow least after := by
  induction size : cursor.size using Nat.strongRecOn
    generalizing left cursor value with
  | _ size ih =>
      rcases (gives_arithmeticAfter_iff setting).mp gives with
        ⟨declines, _, rfl⟩ |
        ⟨sign, operator, place, behind, right, rfl, _, _,
          ⟨first, next, firstGives, rightGives⟩, restGives⟩
      · exact operatorBelow_of_declines declines
      · have firstShorter := firstGives.size_lt
        have rightShorter := rightGives.size_lt
        rw [Cursor.size_preceded, List.length_singleton] at size
        exact ih behind.size (by omega) restGives rfl

theorem strength_ofArithmetic (operator : Arithmetic) :
    (Level.ofArithmetic operator).strength = operator.precedence := by
  cases operator <;> rfl

theorem strength_tighter_ofArithmetic (operator : Arithmetic) :
    (Level.ofArithmetic operator).tighter.strength = operator.precedence + 1 := by
  cases operator <;> rfl

theorem five_le_precedence (operator : Arithmetic) : 5 ≤ operator.precedence := by
  cases operator <;> simp [Arithmetic.precedence]

/--
Going on after a left operand.  Whatever level the left operand has, the
operator behind it binds no tighter than that level, so the operand may be the
left operand of the operator; the level of the result is again one of the
levels that the precedence of the climb allows.
-/
theorem phrase_of_gives_arithmeticAfter
    (sound : SoundBelow setting bound)
    {least : Nat} {level : Level} {cursor after : Cursor} {left value : Expression}
    {leftTokens : List Token}
    (isWithin : cursor.size ≤ bound)
    (leftPhrase : Phrase (setting.maxDepth - cursor.depth) level leftTokens left)
    (isAllowed : least ≤ level.strength ∧ 5 ≤ level.strength)
    (goesBelow : OperatorBelow (level.strength + 1) cursor)
    (gives :
      Gives (arithmeticAfter setting least left cursor (nestedFrom setting cursor))
        value after) :
    ∃ (used : List Token) (level' : Level),
      cursor = after.preceded used ∧
        least ≤ level'.strength ∧ 5 ≤ level'.strength ∧
        Phrase (setting.maxDepth - after.depth) level' (leftTokens ++ used) value ∧
        value.joinsConditions = left.joinsConditions := by
  induction size : cursor.size using Nat.strongRecOn
    generalizing least level cursor after left value leftTokens with
  | _ size ih =>
      rcases (gives_arithmeticAfter_iff setting).mp gives with
        ⟨_, rfl, rfl⟩ |
        ⟨sign, operator, place, behind, right, rfl, isSign, binds,
          ⟨first, next, firstGives, rightGives⟩, restGives⟩
      · refine ⟨[], level, rfl, isAllowed.1, isAllowed.2, ?_, rfl⟩
        simpa using leftPhrase
      · rw [Cursor.size_preceded, List.length_singleton] at size isWithin
        -- The right operand is a climb of its own, with a greater precedence.
        obtain ⟨⟨firstTokens, rfl, firstPhrase⟩, _⟩ :=
          reads_of_gives_signed sound (by omega) firstGives
        have firstShorter := firstGives.size_lt
        obtain ⟨rightTokens, rightLevel, rfl, rightTight, _, rightPhrase, _⟩ :=
          @ih next.size (by omega) (operator.precedence + 1) .signed next behind first
            right firstTokens (by omega) firstPhrase
            (by cases operator <;> simp [Level.strength, Arithmetic.precedence])
            (by
              intro token place' operator' _ _
              cases operator' <;> simp [Level.strength, Arithmetic.precedence])
            rightGives rfl
        have rightBelow := operatorBelow_of_gives_arithmeticAfter rightGives
        have isLoose : operator.precedence ≤ level.strength :=
          Nat.le_of_lt_succ (goesBelow rfl isSign)
        have joined :
            Phrase (setting.maxDepth - behind.depth) (.ofArithmetic operator)
              (leftTokens ++ sign :: (firstTokens ++ rightTokens))
              (.binary (.arithmetic operator) left right) :=
          .computed
            (leftPhrase.loosenTo (by rw [strength_ofArithmetic]; exact isLoose)) isSign
            (rightPhrase.loosenTo
              (by rw [strength_tighter_ofArithmetic]; exact rightTight))
        rw [Cursor.size_preceded] at firstShorter
        obtain ⟨used, level', rfl, tight, tight', phrase, joins⟩ :=
          @ih behind.size (by simp at size; omega) least (.ofArithmetic operator) behind
            after (.binary (.arithmetic operator) left right) value _
            (by simp at isWithin; omega) joined
            (by
              rw [strength_ofArithmetic]
              exact ⟨binds, five_le_precedence operator⟩)
            (by rw [strength_ofArithmetic]; exact rightBelow)
            restGives rfl
        refine
          ⟨sign :: (firstTokens ++ rightTokens ++ used), level', ?_, tight, tight', ?_, ?_⟩
        · simp [Cursor.preceded]
        · simpa using phrase
        · rw [joins]
          rfl

theorem reads_of_climbs
    (sound : SoundBelow setting bound)
    {context : Context} {cursor after : Cursor} {value : Expression}
    (isWithin : cursor.size ≤ bound)
    (climbs : Climbs setting 0 context cursor value after) :
    Reads setting .sum cursor value after ∧ context.inGroup.Admits value := by
  obtain ⟨first, place, firstGives, restGives⟩ := climbs
  obtain ⟨⟨firstTokens, rfl, firstPhrase⟩, admits⟩ :=
    reads_of_gives_signed sound isWithin firstGives
  rw [Cursor.size_preceded] at isWithin
  obtain ⟨used, level, rfl, _, tight, phrase, joins⟩ :=
    phrase_of_gives_arithmeticAfter sound (by omega) firstPhrase
      (by simp [Level.strength])
      (by
        intro token place' operator _ _
        cases operator <;> simp [Level.strength, Arithmetic.precedence])
      restGives
  refine ⟨⟨firstTokens ++ used, ?_, phrase.loosenTo tight⟩, ?_⟩
  · simp [Cursor.preceded]
  · cases context with
    | value => trivial
    | condition => exact joins.trans admits
    | group => exact joins.trans admits

/-! ## Comparisons and connectives -/

theorem joinsConditions_of_testPhrase
    {name : String} {tokens : List Token} {value : Expression}
    (test : TestPhrase name tokens value) :
    value.joinsConditions = true := by
  cases test <;> rfl

theorem reads_of_gives_comparison
    (sound : SoundBelow setting bound)
    {context : Context} {cursor after : Cursor} {value : Expression}
    (isWithin : cursor.size ≤ bound)
    (gives :
      Gives (comparison setting context cursor (nestedFrom setting cursor)) value after) :
    Reads setting .comparison cursor value after ∧ context.inGroup.Admits value := by
  obtain ⟨start, left, place, _, leftClimbs, goesOn⟩ :=
    (gives_comparison_iff setting).mp gives
  obtain ⟨⟨leftTokens, rfl, leftPhrase⟩, admits⟩ :=
    reads_of_climbs sound isWithin leftClimbs
  rw [Cursor.size_preceded] at isWithin
  rcases goesOn with
    ⟨sign, operator, next, right, rfl, isSign, rfl, rightClimbs⟩ | ⟨_, testGives⟩
  · rw [Cursor.size_preceded, List.length_singleton] at isWithin
    obtain ⟨⟨rightTokens, rfl, rightPhrase⟩, _⟩ :=
      reads_of_climbs sound (by omega) rightClimbs
    refine ⟨⟨leftTokens ++ sign :: rightTokens, ?_, ?_⟩, ?_⟩
    · simp [Cursor.preceded]
    · exact .compared leftPhrase isSign rightPhrase
    · cases context
      · trivial
      · exact admits
      · exact admits
  · rcases (gives_testAfter_iff setting).mp testGives with
      ⟨_, _, rfl, rfl⟩ | ⟨name, used, rfl, rfl, test⟩
    · exact ⟨⟨leftTokens, rfl, .loosen leftPhrase⟩, admits⟩
    · refine ⟨⟨leftTokens ++ used, ?_, .tested leftPhrase test⟩, ?_⟩
      · simp [Cursor.preceded]
      · exact Context.admits_of_joinsConditions (joinsConditions_of_testPhrase test)

theorem Context.admits_not
    {context : Context} {operand : Expression}
    (admits : context.afterNot.Admits operand) :
    context.Admits (.unary .not operand) := by
  cases context
  · trivial
  · exact ⟨admits.1, by simp [Expression.joinsConditions, admits.1, admits.2]⟩
  · simp only [Context.Admits, Expression.joinsConditions, Bool.and_eq_true]
    exact admits

theorem reads_of_gives_negation
    (sound : SoundBelow setting bound)
    {context : Context} {cursor after : Cursor} {value : Expression}
    (isWithin : cursor.size ≤ bound)
    (gives :
      Gives (negation setting context cursor (nestedFrom setting cursor)) value after) :
    Reads setting .negation cursor value after ∧ context.Admits value := by
  induction size : cursor.size using Nat.strongRecOn
    generalizing context cursor after value with
  | _ size ih =>
      rcases (gives_negation_iff setting).mp gives with
        ⟨word, place, last, operand, rfl, isNot, isShallow, rfl, rfl, operandGives⟩ |
        ⟨_, isCondition, comparisonGives⟩
      · rw [Cursor.size_preceded, List.length_singleton] at size isWithin
        obtain ⟨reads, admits⟩ :=
          ih place.deeper.size (by rw [Cursor.size_deeper]; omega)
            (by rw [Cursor.size_deeper]; omega) operandGives rfl
        obtain ⟨used, nesting, rfl, phrase, depth⟩ := reads.fromOutside isShallow
        refine ⟨⟨word :: used, rfl, ?_⟩, Context.admits_not admits⟩
        rw [depth]
        exact .negation isNot phrase
      · obtain ⟨reads, admits⟩ := reads_of_gives_comparison sound isWithin comparisonGives
        exact
          ⟨reads.loosenTo (by simp [Level.strength]),
            Context.admits_of_inGroup admits isCondition⟩

theorem connectiveWord_eq (connective : Connective) :
    connectiveWord connective = Level.connectiveKeyword connective := by
  cases connective <;> rfl

theorem Context.admits_connected
    {context : Context} {connective : Connective} {left right : Expression}
    (leftAdmits : context.Admits left)
    (rightAdmits : context.Admits right)
    (leftHolds : context = .value ∨ left.isCondition = true)
    (rightHolds : context = .value ∨ right.isCondition = true) :
    context.Admits (.binary (.logical connective) left right) := by
  cases context with
  | value => trivial
  | condition =>
      simp [Context.Admits, Expression.isCondition, Expression.joinsConditions,
        leftAdmits.1, leftAdmits.2, rightAdmits.1, rightAdmits.2]
  | group =>
      simp only [reduceCtorEq, false_or] at leftHolds rightHolds
      simp only [Context.Admits] at leftAdmits rightAdmits
      simp [Context.Admits, Expression.joinsConditions, leftHolds, rightHolds,
        leftAdmits, rightAdmits]

/-- What a reader of the operands of a chain has to satisfy. -/
def SoundOperand (setting : Setting) (bound : Nat) (context : Context) (level : Level)
    (operand : Reader) : Prop :=
  ∀ ⦃cursor after : Cursor⦄ ⦃value : Expression⦄,
    cursor.size ≤ bound →
      Gives (operand cursor (nestedFrom setting cursor)) value after →
        Reads setting level cursor value after ∧ context.Admits value

theorem phrase_of_gives_chainAfter
    {connective : Connective} {context : Context} {operand : Reader}
    (operandSound :
      SoundOperand setting bound context (Level.ofConnective connective).tighter operand)
    {start : Token} {cursor after : Cursor} {left value : Expression}
    {leftTokens : List Token}
    (isWithin : cursor.size ≤ bound)
    (leftPhrase :
      Phrase (setting.maxDepth - cursor.depth) (.ofConnective connective) leftTokens left)
    (leftAdmits : context.Admits left)
    (gives :
      Gives
        (chainAfter setting connective context operand start left cursor
          (nestedFrom setting cursor))
        value after) :
    ∃ used, cursor = after.preceded used ∧
      Phrase (setting.maxDepth - after.depth) (.ofConnective connective)
        (leftTokens ++ used) value ∧
      context.Admits value := by
  induction size : cursor.size using Nat.strongRecOn
    generalizing cursor left leftTokens with
  | _ size ih =>
      rcases (gives_chainAfter_iff setting).mp gives with
        ⟨_, rfl, rfl⟩ |
        ⟨word, place, behind, right, rfl, isWord, leftHolds, rightHolds, rightGives,
          restGives⟩
      · exact ⟨[], rfl, by simpa using leftPhrase, leftAdmits⟩
      · rw [Cursor.size_preceded, List.length_singleton] at size isWithin
        obtain ⟨⟨rightTokens, rfl, rightPhrase⟩, rightAdmits⟩ :=
          operandSound (by omega) rightGives
        rw [connectiveWord_eq] at isWord
        rw [Cursor.size_preceded] at size isWithin
        have joined :
            Phrase (setting.maxDepth - behind.depth) (.ofConnective connective)
              (leftTokens ++ word :: rightTokens)
              (.binary (.logical connective) left right) :=
          .connected leftPhrase isWord rightPhrase
        obtain ⟨used, rfl, phrase, admits⟩ :=
          ih behind.size (by omega) (by omega) joined
            (Context.admits_connected leftAdmits rightAdmits leftHolds rightHolds)
            restGives rfl
        refine ⟨word :: (rightTokens ++ used), ?_, by simpa using phrase, admits⟩
        simp [Cursor.preceded]

theorem soundOperand_chain
    {connective : Connective} {context : Context} {operand : Reader}
    (operandSound :
      SoundOperand setting bound context (Level.ofConnective connective).tighter operand) :
    SoundOperand setting bound context (.ofConnective connective)
      (chain setting connective context operand) := by
  intro cursor after value isWithin gives
  obtain ⟨start, first, place, _, firstGives, restGives⟩ :=
    (gives_chain_iff setting).mp gives
  obtain ⟨⟨firstTokens, rfl, firstPhrase⟩, firstAdmits⟩ :=
    operandSound isWithin firstGives
  rw [Cursor.size_preceded] at isWithin
  obtain ⟨used, rfl, phrase, admits⟩ :=
    phrase_of_gives_chainAfter operandSound (by omega) (.loosen firstPhrase) firstAdmits
      restGives
  refine ⟨⟨firstTokens ++ used, ?_, phrase⟩, admits⟩
  simp [Cursor.preceded]

/-! ## Expressions -/

/-- Soundness at every place follows from soundness at all places further on. -/
theorem soundBelow (setting : Setting) (bound : Nat) : SoundBelow setting bound := by
  induction bound with
  | zero => exact fun _ _ _ _ isWithin => absurd isWithin (Nat.not_lt_zero _)
  | succ bound ih =>
      intro context cursor after value isWithin gives
      rw [expression_eq_disjunction] at gives
      have negationSound :
          SoundOperand setting bound context .negation (negation setting context) :=
        fun _ _ _ isWithin' gives' => reads_of_gives_negation ih isWithin' gives'
      have conjunctionSound := @soundOperand_chain _ _ .and _ _ negationSound
      exact @soundOperand_chain _ _ .or _ _ conjunctionSound _ _ _
        (Nat.le_of_lt_succ isWithin) gives

/-- An expression that was read is a phrase with the shape that its context asks for. -/
theorem reads_of_gives_expression
    {context : Context} {cursor after : Cursor} {value : Expression}
    (gives : Gives (expression setting context cursor) value after) :
    Reads setting .disjunction cursor value after ∧ context.Admits value :=
  soundBelow setting (cursor.size + 1) cursor.size_lt_succ gives

/-- An arithmetic expression that was read is a phrase of sums. -/
theorem reads_of_gives_arithmetic
    {context : Context} {cursor after : Cursor} {value : Expression}
    (gives :
      Gives (arithmetic setting context cursor (nestedFrom setting cursor)) value after) :
    Reads setting .sum cursor value after :=
  (reads_of_climbs (soundBelow setting cursor.size) (Nat.le_refl _)
    ((gives_arithmetic_iff setting).mp gives)).1

end EventQuery.Grammar
