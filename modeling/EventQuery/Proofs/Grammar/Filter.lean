import Mathlib
import EventQuery.Proofs.Expression.Exposed
import EventQuery.Proofs.Grammar.Completeness

/-!
# Contexts only filter

Every reader of expressions takes the context in which it stands, and the
checks that depend on it are spread over the levels of the grammar.  Together
they do no more than filter: in each context a reader gives what it gives for a
plain value, provided that the context admits the finished tree.  So whether a
condition is accepted is decided by its tree, whatever parentheses were written
around its parts.

At each level the context changes in its own way.  A group asks less than a
condition, a negation asks for a condition again, and behind an operator any
value may stand, so each level is shown in every context at once.
-/

namespace EventQuery.Grammar

/-! ## What a context admits -/

theorem Context.admits_not_iff {context : Context} {operand : Expression} :
    context.Admits (.unary .not operand) ↔ context.afterNot.Admits operand :=
  ⟨admits_of_not, Context.admits_not⟩

/-- Inside a group only the connectives and negations in front count. -/
theorem Context.inGroup_admits_congr
    {context : Context} {first second : Expression}
    (joins : first.joinsConditions = second.joinsConditions) :
    context.inGroup.Admits first ↔ context.inGroup.Admits second :=
  ⟨fun admits => Context.inGroup_admits_left admits joins,
    fun admits => Context.inGroup_admits_left admits joins.symm⟩

/-- A context admits what a group there admits, and a condition where it is one. -/
theorem Context.admits_iff_inGroup {context : Context} {expression : Expression} :
    context.Admits expression ↔
      (context = .condition → expression.isCondition = true) ∧
        context.inGroup.Admits expression := by
  constructor
  · intro admits
    refine ⟨?_, Context.inGroup_admits admits⟩
    rintro rfl
    exact admits.1
  · rintro ⟨isCondition, admits⟩
    exact Context.admits_of_inGroup admits isCondition

/-! ## Operands -/

variable (setting : Setting)

/-- Expressions with fewer tokens ahead are filtered by their contexts. -/
def FiltersBelow (bound : Nat) : Prop :=
  ∀ ⦃context : Context⦄ ⦃cursor after : Cursor⦄ ⦃value : Expression⦄,
    cursor.size < bound →
      (Gives (expression setting context cursor) value after ↔
        Gives (expression setting .value cursor) value after ∧ context.Admits value)

variable {setting} {bound : Nat}

section Levels

variable {context : Context} {cursor after : Cursor} {value : Expression}

theorem gives_primary_iff_admits
    (filters : FiltersBelow setting bound)
    (isWithin : cursor.size ≤ bound) :
    Gives (primary setting context cursor (nestedFrom setting cursor)) value after ↔
      Gives (primary setting .value cursor (nestedFrom setting cursor)) value after ∧
        context.inGroup.Admits value := by
  rw [gives_primary_iff, gives_primary_iff]
  constructor
  · rintro ⟨token, place, rfl, constant | group | name⟩
    · obtain ⟨_, _, rfl, _⟩ := id constant
      exact ⟨⟨token, place, rfl, Or.inl constant⟩, Context.admits_of_joinsConditions rfl⟩
    · obtain ⟨opens, isShallow, closing, last, closes, isAfter, innerGives⟩ := group
      have isLater : place.deeper.size < bound :=
        Nat.lt_of_lt_of_le (place.size_lt_size_preceded_singleton token) isWithin
      obtain ⟨valueGives, admits⟩ := (filters isLater).mp innerGives
      exact
        ⟨⟨token, place, rfl,
          Or.inr (Or.inl ⟨opens, isShallow, closing, last, closes, isAfter, valueGives⟩)⟩,
          admits⟩
    · refine ⟨⟨token, place, rfl, Or.inr (Or.inr name)⟩, ?_⟩
      obtain ⟨_, _, _, ⟨_, rfl, _⟩ | ⟨_, _, _, _, _, _, _, _, rfl, _⟩⟩ := name
      · exact Context.admits_of_joinsConditions rfl
      · exact Context.admits_of_joinsConditions rfl
  · rintro ⟨⟨token, place, rfl, constant | group | name⟩, admits⟩
    · exact ⟨token, place, rfl, Or.inl constant⟩
    · obtain ⟨opens, isShallow, closing, last, closes, isAfter, innerGives⟩ := group
      have isLater : place.deeper.size < bound :=
        Nat.lt_of_lt_of_le (place.size_lt_size_preceded_singleton token) isWithin
      exact
        ⟨token, place, rfl,
          Or.inr
            (Or.inl
              ⟨opens, isShallow, closing, last, closes, isAfter,
                (filters isLater).mpr ⟨innerGives, admits⟩⟩)⟩
    · exact ⟨token, place, rfl, Or.inr (Or.inr name)⟩

/-- Behind a minus sign any value may stand, so the context matters to a bare primary only. -/
theorem gives_signed_iff_admits
    (filters : FiltersBelow setting bound)
    (isWithin : cursor.size ≤ bound) :
    Gives (signed setting context cursor (nestedFrom setting cursor)) value after ↔
      Gives (signed setting .value cursor (nestedFrom setting cursor)) value after ∧
        context.inGroup.Admits value := by
  rw [gives_signed_iff, gives_signed_iff]
  constructor
  · rintro (⟨declines, primaryGives⟩ | minus)
    · obtain ⟨valueGives, admits⟩ :=
        (gives_primary_iff_admits filters isWithin).mp primaryGives
      exact ⟨Or.inl ⟨declines, valueGives⟩, admits⟩
    · refine ⟨Or.inr minus, ?_⟩
      obtain ⟨_, _, _, operand, _, _, _, _, rfl, _⟩ := minus
      exact Context.admits_of_joinsConditions (joinsConditions_negated operand)
  · rintro ⟨⟨declines, primaryGives⟩ | minus, admits⟩
    · exact
        Or.inl
          ⟨declines, (gives_primary_iff_admits filters isWithin).mpr ⟨primaryGives, admits⟩⟩
    · exact Or.inr minus

/-- Whatever is computed with a left operand has the front of that operand. -/
theorem joinsConditions_of_gives_arithmeticAfter
    {least : Nat} {left : Expression}
    (gives :
      Gives (arithmeticAfter setting least left cursor (nestedFrom setting cursor))
        value after) :
    value.joinsConditions = left.joinsConditions := by
  induction size : cursor.size using Nat.strongRecOn generalizing cursor left with
  | _ size ih =>
      rcases (gives_arithmeticAfter_iff setting).mp gives with
        ⟨_, rfl, _⟩ |
        ⟨sign, operator, place, behind, right, rfl, _, _, ⟨first, next, firstGives, rightGives⟩,
          restGives⟩
      · rfl
      · have firstShorter := firstGives.size_lt
        have rightShorter := rightGives.size_lt
        rw [Cursor.size_preceded, List.length_singleton] at size
        have joins := ih behind.size (by omega) restGives rfl
        exact joins

theorem climbs_iff_admits
    {least : Nat}
    (filters : FiltersBelow setting bound)
    (isWithin : cursor.size ≤ bound) :
    Climbs setting least context cursor value after ↔
      Climbs setting least .value cursor value after ∧ context.inGroup.Admits value := by
  constructor
  · rintro ⟨first, place, firstGives, restGives⟩
    have joins := joinsConditions_of_gives_arithmeticAfter restGives
    obtain ⟨valueGives, admits⟩ := (gives_signed_iff_admits filters isWithin).mp firstGives
    exact
      ⟨⟨first, place, valueGives, restGives⟩, (Context.inGroup_admits_congr joins).mpr admits⟩
  · rintro ⟨⟨first, place, firstGives, restGives⟩, admits⟩
    have joins := joinsConditions_of_gives_arithmeticAfter restGives
    have firstAdmits := (Context.inGroup_admits_congr joins).mp admits
    exact
      ⟨first, place, (gives_signed_iff_admits filters isWithin).mpr ⟨firstGives, firstAdmits⟩,
        restGives⟩

/-! ## Comparisons and negations -/

theorem joinsConditions_of_gives_testAfter
    {start : Token} {left : Expression}
    (gives : Gives (testAfter setting start left cursor) value after) :
    value.joinsConditions = left.joinsConditions := by
  rcases (gives_testAfter_iff setting).mp gives with
    ⟨_, _, rfl, _⟩ | ⟨name, used, rfl, _, test⟩
  · rfl
  · exact joinsConditions_of_testPhrase test

/-- Only the left operand of a comparison stands in the context of the comparison. -/
theorem gives_comparison_iff_admits
    (filters : FiltersBelow setting bound)
    (isWithin : cursor.size ≤ bound) :
    Gives (comparison setting context cursor (nestedFrom setting cursor)) value after ↔
      Gives (comparison setting .value cursor (nestedFrom setting cursor)) value after ∧
        context.inGroup.Admits value := by
  rw [gives_comparison_iff, gives_comparison_iff]
  constructor
  · rintro ⟨start, left, place, ahead, leftClimbs, goesOn⟩
    obtain ⟨valueClimbs, admits⟩ := (climbs_iff_admits filters isWithin).mp leftClimbs
    refine ⟨⟨start, left, place, ahead, valueClimbs, goesOn⟩, ?_⟩
    rcases goesOn with ⟨_, operator, _, right, _, _, rfl, _⟩ | ⟨_, testGives⟩
    · have joins :
          (Expression.binary (.comparison operator) left right).joinsConditions =
            left.joinsConditions :=
        rfl
      exact (Context.inGroup_admits_congr joins).mpr admits
    · have joins := joinsConditions_of_gives_testAfter testGives
      exact (Context.inGroup_admits_congr joins).mpr admits
  · rintro ⟨⟨start, left, place, ahead, leftClimbs, goesOn⟩, admits⟩
    have leftAdmits : context.inGroup.Admits left := by
      rcases goesOn with ⟨_, _, _, _, _, _, rfl, _⟩ | ⟨_, testGives⟩
      · exact Context.inGroup_admits_left admits rfl
      · exact Context.inGroup_admits_left admits (joinsConditions_of_gives_testAfter testGives)
    exact
      ⟨start, left, place, ahead,
        (climbs_iff_admits filters isWithin).mpr ⟨leftClimbs, leftAdmits⟩, goesOn⟩

theorem gives_negation_iff_admits
    (filters : FiltersBelow setting bound)
    (isWithin : cursor.size ≤ bound) :
    Gives (negation setting context cursor (nestedFrom setting cursor)) value after ↔
      Gives (negation setting .value cursor (nestedFrom setting cursor)) value after ∧
        context.Admits value := by
  obtain ⟨size, isSize⟩ : ∃ size, cursor.size = size := ⟨_, rfl⟩
  induction size using Nat.strongRecOn generalizing context cursor after value with
  | _ size ih =>
      have operandFilters {place last : Cursor} {operand : Expression} {word : Token}
          (isCursor : cursor = place.preceded [word]) :
          Gives
              (negation setting context.afterNot place.deeper (nestedFrom setting place.deeper))
              operand last ↔
            Gives (negation setting .value place.deeper (nestedFrom setting place.deeper))
                operand last ∧
              context.afterNot.Admits operand := by
        have isLater : place.deeper.size < cursor.size :=
          isCursor ▸ place.size_lt_size_preceded_singleton word
        exact ih _ (isSize ▸ isLater) (Nat.le_trans (Nat.le_of_lt isLater) isWithin) rfl
      rw [gives_negation_iff, gives_negation_iff]
      constructor
      · rintro (⟨word, place, last, operand, isCursor, isNot, isShallow, isAfter, rfl, gives⟩ |
          ⟨declines, isCondition, gives⟩)
        · obtain ⟨valueGives, admits⟩ := (operandFilters isCursor).mp gives
          exact
            ⟨Or.inl
              ⟨word, place, last, operand, isCursor, isNot, isShallow, isAfter, rfl, valueGives⟩,
              Context.admits_not_iff.mpr admits⟩
        · obtain ⟨valueGives, admits⟩ := (gives_comparison_iff_admits filters isWithin).mp gives
          exact
            ⟨Or.inr ⟨declines, Context.noConfusion, valueGives⟩,
              Context.admits_iff_inGroup.mpr ⟨isCondition, admits⟩⟩
      · rintro ⟨⟨word, place, last, operand, isCursor, isNot, isShallow, isAfter, rfl, gives⟩ |
          ⟨declines, _, gives⟩, admits⟩
        · exact
            Or.inl
              ⟨word, place, last, operand, isCursor, isNot, isShallow, isAfter, rfl,
                (operandFilters isCursor).mpr ⟨gives, Context.admits_not_iff.mp admits⟩⟩
        · obtain ⟨isCondition, inGroup⟩ := Context.admits_iff_inGroup.mp admits
          exact
            Or.inr
              ⟨declines, isCondition,
                (gives_comparison_iff_admits filters isWithin).mpr ⟨gives, inGroup⟩⟩

end Levels

/-! ## Connectives -/

/-- An operand of a chain is filtered by the context of the chain. -/
def FiltersOperand (setting : Setting) (bound : Nat) (context : Context)
    (operand : Context → Reader) : Prop :=
  ∀ ⦃cursor after : Cursor⦄ ⦃value : Expression⦄,
    cursor.size ≤ bound →
      (Gives (operand context cursor (nestedFrom setting cursor)) value after ↔
        Gives (operand .value cursor (nestedFrom setting cursor)) value after ∧
          context.Admits value)

section Chains

variable {context : Context} {connective : Connective} {operand : Context → Reader}

/--
A chain that goes on behind an admitted operand is filtered, and a chain that
is admitted in the end has an admitted operand in front.
-/
theorem gives_chainAfter_iff_admits
    (filters : FiltersOperand setting bound context operand)
    {start : Token} {left value : Expression} {cursor after : Cursor}
    (isWithin : cursor.size ≤ bound) :
    (Gives
          (chainAfter setting connective context (operand context) start left cursor
            (nestedFrom setting cursor))
          value after ∧
        context.Admits left) ↔
      Gives
          (chainAfter setting connective .value (operand .value) start left cursor
            (nestedFrom setting cursor))
          value after ∧
        context.Admits value := by
  obtain ⟨size, isSize⟩ : ∃ size, cursor.size = size := ⟨_, rfl⟩
  induction size using Nat.strongRecOn generalizing left cursor with
  | _ size ih =>
      have restFilters {place behind : Cursor} {word : Token} {right : Expression}
          (isCursor : cursor = place.preceded [word])
          (rightShorter : behind.size < place.size) :=
        @ih behind.size
          (by rw [← isSize, isCursor, Cursor.size_preceded, List.length_singleton]; omega)
          (.binary (.logical connective) left right) behind
          (by rw [isCursor, Cursor.size_preceded, List.length_singleton] at isWithin; omega)
          rfl
      have rightWithin {place : Cursor} {word : Token}
          (isCursor : cursor = place.preceded [word]) : place.size ≤ bound := by
        rw [isCursor, Cursor.size_preceded, List.length_singleton] at isWithin
        omega
      rw [gives_chainAfter_iff, gives_chainAfter_iff]
      constructor
      · rintro ⟨⟨declines, rfl, isAfter⟩ |
          ⟨word, place, behind, right, isCursor, isWord, leftHolds, rightHolds, rightGives,
            restGives⟩, leftAdmits⟩
        · exact ⟨Or.inl ⟨declines, rfl, isAfter⟩, leftAdmits⟩
        · obtain ⟨rightValue, rightAdmits⟩ := (filters (rightWithin isCursor)).mp rightGives
          have joined : context.Admits (.binary (.logical connective) left right) :=
            Context.admits_connected leftAdmits rightAdmits leftHolds rightHolds
          obtain ⟨restValue, admits⟩ :=
            (restFilters isCursor rightGives.size_lt).mp ⟨restGives, joined⟩
          exact
            ⟨Or.inr
              ⟨word, place, behind, right, isCursor, isWord, Or.inl rfl, Or.inl rfl, rightValue,
                restValue⟩,
              admits⟩
      · rintro ⟨⟨declines, rfl, isAfter⟩ |
          ⟨word, place, behind, right, isCursor, isWord, _, _, rightValue, restValue⟩, admits⟩
        · exact ⟨Or.inl ⟨declines, rfl, isAfter⟩, admits⟩
        · obtain ⟨restGives, joined⟩ :=
            (restFilters isCursor rightValue.size_lt).mpr ⟨restValue, admits⟩
          obtain ⟨⟨leftAdmits, rightAdmits⟩, leftHolds, rightHolds⟩ := admits_of_connected joined
          have rightGives := (filters (rightWithin isCursor)).mpr ⟨rightValue, rightAdmits⟩
          exact
            ⟨Or.inr
              ⟨word, place, behind, right, isCursor, isWord, leftHolds, rightHolds, rightGives,
                restGives⟩,
              leftAdmits⟩

theorem filtersOperand_chain
    (filters : FiltersOperand setting bound context operand) :
    FiltersOperand setting bound context
      fun context => chain setting connective context (operand context) := by
  intro cursor after value isWithin
  have restWithin {first : Expression} {place : Cursor} {context' : Context}
      (firstGives : Gives (operand context' cursor (nestedFrom setting cursor)) first place) :
      place.size ≤ bound :=
    Nat.le_trans (Nat.le_of_lt firstGives.size_lt) isWithin
  rw [gives_chain_iff, gives_chain_iff]
  constructor
  · rintro ⟨start, first, place, ahead, firstGives, restGives⟩
    obtain ⟨firstValue, firstAdmits⟩ := (filters isWithin).mp firstGives
    obtain ⟨restValue, admits⟩ :=
      (gives_chainAfter_iff_admits filters (restWithin firstGives)).mp ⟨restGives, firstAdmits⟩
    exact ⟨⟨start, first, place, ahead, firstValue, restValue⟩, admits⟩
  · rintro ⟨⟨start, first, place, ahead, firstValue, restValue⟩, admits⟩
    obtain ⟨restGives, firstAdmits⟩ :=
      (gives_chainAfter_iff_admits filters (restWithin firstValue)).mpr ⟨restValue, admits⟩
    exact
      ⟨start, first, place, ahead, (filters isWithin).mpr ⟨firstValue, firstAdmits⟩, restGives⟩

end Chains

/-! ## Expressions -/

/-- What is filtered further on is filtered at every place, level by level. -/
theorem filtersBelow (setting : Setting) (bound : Nat) : FiltersBelow setting bound := by
  induction bound with
  | zero => exact fun _ _ _ _ isWithin => absurd isWithin (Nat.not_lt_zero _)
  | succ bound ih =>
      intro context cursor after value isWithin
      rw [expression_eq_disjunction, expression_eq_disjunction]
      have negations : FiltersOperand setting bound context (negation setting) :=
        fun _ _ _ isWithin' => gives_negation_iff_admits ih isWithin'
      have disjunctions : FiltersOperand setting bound context (disjunction setting) :=
        filtersOperand_chain (filtersOperand_chain negations)
      exact disjunctions (Nat.le_of_lt_succ isWithin)

/-- In each context an expression is read that is read as a value and admitted there. -/
theorem gives_expression_iff_admits
    {context : Context} {cursor after : Cursor} {value : Expression} :
    Gives (expression setting context cursor) value after ↔
      Gives (expression setting .value cursor) value after ∧ context.Admits value :=
  filtersBelow setting (cursor.size + 1) cursor.size_lt_succ

theorem gives_parsed_iff {α : Type} {bound : Nat} {outcome : Outcome α bound}
    {parsed : Parsed α bound} :
    Gives outcome parsed.value parsed.cursor ↔ outcome = .ok parsed := by
  constructor
  · rintro ⟨_, equal⟩
    exact equal
  · intro equal
    exact gives_of_eq_ok equal

/-- What makes an expression that is read as a value a condition. -/
theorem expression_condition_eq_ok_iff {cursor : Cursor}
    {parsed : Parsed Expression cursor.size} :
    expression setting .condition cursor = .ok parsed ↔
      expression setting .value cursor = .ok parsed ∧
        parsed.value.isCondition = true ∧
        ∀ part : Expression, parsed.value.Exposes part → part.TakesConditions := by
  rw [← gives_parsed_iff, ← gives_parsed_iff, gives_expression_iff_admits,
    ← Expression.joinsConditions_iff]
  exact Iff.rfl

/--
A condition is read exactly where a value is read, up to the same place, whose
tree is a condition and exposes only connectives and negations of conditions.
So of two texts that say the same tree both are accepted as conditions or none.
-/
theorem conditions_filter_values (setting : Setting) (cursor : Cursor) :
    (∀ parsed : Parsed Expression cursor.size,
      expression setting .condition cursor = .ok parsed ↔
        expression setting .value cursor = .ok parsed ∧
          parsed.value.isCondition = true ∧
          ∀ part : Expression, parsed.value.Exposes part → part.TakesConditions) ∧
      ∀ (otherSetting : Setting) (other : Cursor)
        (parsed : Parsed Expression cursor.size) (otherParsed : Parsed Expression other.size),
        expression setting .value cursor = .ok parsed →
          expression otherSetting .value other = .ok otherParsed →
            otherParsed.value = parsed.value →
              (expression setting .condition cursor = .ok parsed ↔
                expression otherSetting .condition other = .ok otherParsed) := by
  refine ⟨fun parsed => expression_condition_eq_ok_iff, ?_⟩
  intro otherSetting other parsed otherParsed reads otherReads sameTree
  rw [expression_condition_eq_ok_iff, expression_condition_eq_ok_iff, sameTree]
  simp only [reads, otherReads, true_and]

/-- A condition that can be written with more or fewer parentheses. -/
def regrouped : Expression :=
  .binary (.logical .and) (.unary .not (.field "a")) (.field "b")

/-- The tokens of the condition without parentheses. -/
def ungroupedTokens : List Token :=
  [⟨.keyword .notWord, "NOT", ⟨1, 1⟩⟩, ⟨.name "a" false, "a", ⟨1, 5⟩⟩,
    ⟨.keyword .andWord, "AND", ⟨1, 7⟩⟩, ⟨.name "b" false, "b", ⟨1, 11⟩⟩]

/-- The tokens of the condition with parentheses around each of its parts. -/
def groupedTokens : List Token :=
  [⟨.leftParenthesis, "(", ⟨1, 1⟩⟩, ⟨.keyword .notWord, "NOT", ⟨1, 2⟩⟩,
    ⟨.leftParenthesis, "(", ⟨1, 6⟩⟩, ⟨.name "a" false, "a", ⟨1, 7⟩⟩,
    ⟨.rightParenthesis, ")", ⟨1, 8⟩⟩, ⟨.rightParenthesis, ")", ⟨1, 9⟩⟩,
    ⟨.keyword .andWord, "AND", ⟨1, 11⟩⟩, ⟨.leftParenthesis, "(", ⟨1, 15⟩⟩,
    ⟨.name "b" false, "b", ⟨1, 16⟩⟩, ⟨.rightParenthesis, ")", ⟨1, 17⟩⟩]

theorem conditions_filter_values_regrouped :
    TokenStream.ofSource "NOT a AND b" none = ⟨ungroupedTokens, .ok (.endAt ⟨1, 12⟩)⟩ ∧
      TokenStream.ofSource "(NOT (a)) AND (b)" none = ⟨groupedTokens, .ok (.endAt ⟨1, 18⟩)⟩ ∧
      Gives (expression ⟨.ok (.endAt ⟨1, 12⟩), 8⟩ .condition ⟨ungroupedTokens, 0⟩)
        regrouped ⟨[], 0⟩ ∧
      Gives (expression ⟨.ok (.endAt ⟨1, 18⟩), 8⟩ .condition ⟨groupedTokens, 0⟩)
        regrouped ⟨[], 0⟩ := by
  let parsed : Parsed Expression (Cursor.mk ungroupedTokens 0).size :=
    ⟨regrouped, ⟨[], 0⟩, by decide⟩
  let otherParsed : Parsed Expression (Cursor.mk groupedTokens 0).size :=
    ⟨regrouped, ⟨[], 0⟩, by decide⟩
  have reads :
      expression ⟨.ok (.endAt ⟨1, 12⟩), 8⟩ .value ⟨ungroupedTokens, 0⟩ = .ok parsed := by
    cbv
  have otherReads :
      expression ⟨.ok (.endAt ⟨1, 18⟩), 8⟩ .value ⟨groupedTokens, 0⟩ = .ok otherParsed := by
    cbv
  obtain ⟨isRead, alike⟩ := conditions_filter_values ⟨.ok (.endAt ⟨1, 12⟩), 8⟩ ⟨ungroupedTokens, 0⟩
  have conditionReads := (isRead parsed).mpr ⟨reads, rfl, Expression.joinsConditions_iff.mp rfl⟩
  have otherConditionReads :=
    (alike _ _ parsed otherParsed reads otherReads rfl).mp conditionReads
  exact
    ⟨by cbv, by cbv, gives_parsed_iff.mpr conditionReads,
      gives_parsed_iff.mpr otherConditionReads⟩

end EventQuery.Grammar
