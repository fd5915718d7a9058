import EventQuery.Proofs.Canonical.Nesting
import EventQuery.Proofs.Parentheses.Scale

/-!
# No text weighs less than its query

Where a place demands more than an operand binds, and where a minus sign meets
another one, a text has to bring a parenthesis or the second sign.  So the tokens of
every phrase weigh at least as much as what they say, and so do those of a query.
-/

namespace EventQuery

open Grammar Expression

/-! ## Marks of tokens -/

namespace Token

variable {token : Token}

theorem mark_of_name? {name : String} (means : token.name? = some name) :
    token.mark = .name name := by
  rw [mark, means]

theorem mark_of_leftParenthesis (opens : token.content = .leftParenthesis) :
    token.mark = .opening := by
  simp only [mark, name?, opens]

theorem mark_of_minus (isMinus : token.content = .arithmetic .subtract) :
    token.mark = .minus := by
  simp only [mark, name?, isMinus]

theorem awaits_of_keyword {word : Keyword} (isWord : token.content = .keyword word)
    (isReserved : word.isReserved = true) :
    token.mark.awaits = true := by
  simp only [mark, name?, isWord, isReserved, if_true, Mark.awaits]

theorem awaits_of_comparison {comparison : Comparison}
    (isSign : token.content = .comparison comparison) :
    token.mark.awaits = true := by
  simp only [mark, name?, isSign, Mark.awaits]

theorem awaits_of_arithmetic {operator : Arithmetic}
    (isSign : token.content = .arithmetic operator) :
    token.mark.awaits = true := by
  cases operator <;> simp only [mark, name?, isSign, Mark.awaits]

theorem awaits_of_comma (isComma : token.content = .comma) : token.mark.awaits = true := by
  simp only [mark, name?, isComma, Mark.awaits]

end Token

namespace Scale

variable (scale : Scale)

/-! ## What a place demands -/

/-- The least that an expression weighs behind others where a level is demanded. -/
def least (mood : Mood) (level : Level) (expression : Expression) : Nat :=
  scale.grouped
    (mood == .signed && expression.isOpposite ||
      decide (expression.precedence < min level.strength atomPrecedence))
    (scale.expression expression)

theorem expression_le_least (mood : Mood) (level : Level) (expression : Expression) :
    scale.expression expression ≤ scale.least mood level expression :=
  scale.le_grouped _ _

theorem least_le (mood : Mood) (level : Level) (expression : Expression) :
    scale.least mood level expression ≤ scale.opening + scale.expression expression :=
  scale.grouped_le _ _

/-- No level demands less than a looser one. -/
theorem least_mono {mood : Mood} {loose tight : Level} (expression : Expression)
    (isLooser : loose.strength ≤ tight.strength) :
    scale.least mood loose expression ≤ scale.least mood tight expression := by
  refine scale.grouped_mono _ fun isGrouped => ?_
  simp only [Bool.or_eq_true, decide_eq_true_eq] at isGrouped ⊢
  exact isGrouped.imp_right fun isTighter => by omega

/-- Nothing weighs less for a sign in front of it. -/
theorem least_awaiting_le (mood : Mood) (level : Level) (expression : Expression) :
    scale.least .awaiting level expression ≤ scale.least mood level expression :=
  scale.grouped_mono _ fun isGrouped => Bool.or_eq_true_iff.mpr (Or.inr isGrouped)

/-- Where little enough is demanded and no two signs meet, there are no parentheses. -/
theorem least_eq_expression {mood : Mood} {level : Level} {expression : Expression}
    (isNoOpposite : expression.isOpposite = false)
    (fits : min level.strength atomPrecedence ≤ expression.precedence) :
    scale.least mood level expression = scale.expression expression := by
  rw [least, isNoOpposite, Bool.and_false, Bool.false_or,
    decide_eq_false (Nat.not_lt.mpr fits)]
  rfl

theorem least_of_atom {mood : Mood} {level : Level} {expression : Expression}
    (isNoOpposite : expression.isOpposite = false)
    (isAtom : expression.precedence = atomPrecedence) :
    scale.least mood level expression = scale.expression expression :=
  scale.least_eq_expression isNoOpposite (isAtom ▸ Nat.min_le_right _ _)

/-- Constants weigh nothing, whatever is demanded of them. -/
theorem least_le_of_weightless {scale : Scale} {mood : Mood} {level : Level}
    {expression : Expression} {bound : Nat}
    (isNoOpposite : expression.isOpposite = false)
    (isAtom : expression.precedence = atomPrecedence)
    (isWeightless : scale.expression expression = 0) :
    scale.least mood level expression ≤ bound := by
  rw [scale.least_of_atom isNoOpposite isAtom, isWeightless]
  exact Nat.zero_le _

end Scale

theorem BinaryOperator.min_leftDemand (operator : BinaryOperator) :
    min operator.leftLevel.strength atomPrecedence = operator.leftDemand := by
  rw [operator.strength_leftLevel]
  rcases operator with connective | comparison | operator
  · cases connective <;> rfl
  · rfl
  · cases operator <;> rfl

theorem BinaryOperator.min_rightDemand (operator : BinaryOperator) :
    min operator.rightLevel.strength atomPrecedence = operator.rightDemand := by
  rw [operator.strength_rightLevel]
  rcases operator with connective | comparison | operator
  · cases connective <;> rfl
  · rfl
  · cases operator <;> rfl

namespace Scale

variable (scale : Scale)

theorem expression_binary (operator : BinaryOperator) (left right : Expression) :
    scale.expression (.binary operator left right) =
      scale.least .awaiting operator.leftLevel left +
        scale.least .awaiting operator.rightLevel right := by
  rw [Scale.expression, least, least, operator.min_leftDemand, operator.min_rightDemand]
  rfl

theorem expression_not (operand : Expression) :
    scale.expression (.unary .not operand) = scale.least .awaiting .negation operand :=
  rfl

theorem expression_negate (operand : Expression) :
    scale.expression (.unary .negate operand) = scale.least .signed .signed operand :=
  rfl

/-! ## Marks in a row -/

variable {scale}

/-- What stands between two parts may weigh something, but takes nothing away. -/
theorem add_le_total {mood : Mood} {mark : Mark} {first second : List Mark} {left right : Nat}
    (awaits : mark.awaits = true)
    (leftBound : left ≤ scale.total mood first)
    (rightBound : ∀ mood, mood ≠ .ended → right ≤ scale.total mood second) :
    left + right ≤ scale.total mood (first ++ mark :: second) := by
  have behind := rightBound _ (Mark.after_ne_ended awaits (mood.through first))
  rw [total_append, total]
  omega

/-- What stands in front takes nothing away. -/
theorem le_total_cons {mood : Mood} {mark : Mark} {marks : List Mark} {bound : Nat}
    (awaits : mark.awaits = true)
    (isBound : ∀ mood, mood ≠ .ended → bound ≤ scale.total mood marks) :
    bound ≤ scale.total mood (mark :: marks) := by
  rw [← Nat.zero_add bound, ← List.nil_append (mark :: marks)]
  exact add_le_total awaits (Nat.zero_le _) isBound

theorem le_total_append {mood : Mood} {first second : List Mark} {bound : Nat}
    (isBound : bound ≤ scale.total mood first) :
    bound ≤ scale.total mood (first ++ second) := by
  rw [total_append]
  exact Nat.le_add_right_of_le isBound

end Scale

namespace Grammar

open Scale

variable {scale : Scale}

theorem le_total_map_append {mood : Mood} {first second : List Token} {bound : Nat}
    (isBound : bound ≤ scale.total mood (first.map Token.mark)) :
    bound ≤ scale.total mood ((first ++ second).map Token.mark) := by
  rw [List.map_append]
  exact le_total_append isBound

/-! ## Expressions -/

theorem TestPhrase.expression_le {name : String} {tokens : List Token}
    {expression : Expression}
    (test : TestPhrase name tokens expression)
    (scale : Scale)
    (mood : Mood) :
    scale.expression expression ≤
      scale.name name + scale.total mood (tokens.map Token.mark) := by
  cases test with
  | @membership negated words tokens word opening closing values mayNegate isIn opens =>
      have bound :
          scale.opening ≤
            scale.total (((mood.through (words.map Token.mark)).after word.mark))
              ((opening :: (tokens ++ [closing])).map Token.mark) := by
        rw [List.map_cons, Token.mark_of_leftParenthesis opens, total]
        exact Nat.le_add_right _ _
      rw [List.map_append, List.map_cons, total_append, total, Scale.expression]
      omega
  | pattern => exact Nat.le_add_right _ _

/-- An operator brings its two operands together, each with what its place demands. -/
theorem least_binary_le {operator : BinaryOperator} {left right : Expression}
    {leftTokens rightTokens : List Token} {sign : Token} {mood : Mood}
    (awaits : sign.mark.awaits = true)
    (leftBound :
      scale.least mood operator.leftLevel left ≤ scale.total mood (leftTokens.map Token.mark))
    (rightBound :
      ∀ mood, mood ≠ .ended →
        scale.least mood operator.rightLevel right ≤
          scale.total mood (rightTokens.map Token.mark)) :
    scale.least mood operator.level (.binary operator left right) ≤
      scale.total mood ((leftTokens ++ sign :: rightTokens).map Token.mark) := by
  rw [scale.least_eq_expression rfl
    (Nat.le_trans (Nat.min_le_left _ _) (Nat.le_of_eq operator.strength_level)),
    expression_binary, List.map_append, List.map_cons]
  exact
    add_le_total awaits (Nat.le_trans (scale.least_awaiting_le _ _ _) leftBound)
      fun mood isOpen => Nat.le_trans (scale.least_awaiting_le _ _ _) (rightBound mood isOpen)

/-- Parentheses weigh enough for whatever a place may demand of their inside. -/
theorem least_le_of_group {mood : Mood} {level : Level} {expression : Expression}
    {opening closing : Token} {tokens : List Token}
    (opens : opening.content = .leftParenthesis)
    (inner : scale.expression expression ≤ scale.total .awaiting (tokens.map Token.mark)) :
    scale.least mood level expression ≤
      scale.total mood ((opening :: (tokens ++ [closing])).map Token.mark) := by
  have enough := scale.least_le mood level expression
  have closed : scale.expression expression ≤
      scale.total .awaiting ((tokens ++ [closing]).map Token.mark) :=
    le_total_map_append inner
  rw [List.map_cons, Token.mark_of_leftParenthesis opens, total_cons, weight_opening,
    Mood.after_opening]
  omega

mutual

/-- A phrase weighs at least what its expression weighs where its level is demanded. -/
theorem Phrase.least_le {nesting : Nat} {level : Level} {tokens : List Token}
    {expression : Expression} {mood : Mood} :
    Phrase nesting level tokens expression → mood ≠ .ended →
      scale.least mood level expression ≤ scale.total mood (tokens.map Token.mark)
  | .loosen inner, isOpen =>
      Nat.le_trans (scale.least_mono _ level.strength_le_tighter) (inner.least_le isOpen)
  | .star _, _ => least_le_of_weightless rfl rfl rfl
  | @Phrase.connected _ connective _ _ _ left right leftPhrase isWord rightPhrase, isOpen => by
      refine
        @least_binary_le _ (.logical connective) left right _ _ _ _ ?_
          (leftPhrase.least_le isOpen) fun _ => rightPhrase.least_le
      cases connective <;> exact Token.awaits_of_keyword isWord rfl
  | .negation isNot inner, _ => by
      rw [scale.least_eq_expression rfl (Nat.min_le_left _ _), expression_not]
      exact
        le_total_cons (Token.awaits_of_keyword isNot rfl) fun _ isOpen =>
          Nat.le_trans (scale.least_awaiting_le _ _ _) (inner.least_le isOpen)
  | @Phrase.compared _ comparison _ _ _ left right leftPhrase isSign rightPhrase, isOpen =>
      @least_binary_le _ (.comparison comparison) left right _ _ _ _
        (Token.awaits_of_comparison isSign) (leftPhrase.least_le isOpen)
        fun _ => rightPhrase.least_le
  | @Phrase.tested _ nameTokens tokens name expression fieldPhrase test, isOpen => by
      have nameBound : scale.name name ≤ scale.total mood (nameTokens.map Token.mark) := by
        have bound := fieldPhrase.least_le isOpen
        rwa [scale.least_of_atom rfl rfl] at bound
      have testBound := test.expression_le scale (mood.through (nameTokens.map Token.mark))
      have isTest : scale.least mood .comparison expression = scale.expression expression := by
        cases test <;> exact scale.least_eq_expression rfl (Nat.min_le_left _ _)
      rw [isTest, List.map_append, total_append]
      exact Nat.le_trans testBound (Nat.add_le_add_right nameBound _)
  | @Phrase.computed _ operator _ _ _ left right leftPhrase isSign rightPhrase, isOpen =>
      @least_binary_le _ (.arithmetic operator) left right _ _ _ _
        (Token.awaits_of_arithmetic isSign) (leftPhrase.least_le isOpen)
        fun _ => rightPhrase.least_le
  | .opposite _ _ _, _ => least_le_of_weightless rfl rfl rfl
  | @Phrase.minus _ tokens sign operand isMinus inner _, isOpen => by
      have bound : scale.expression (.unary .negate operand) ≤
          scale.total .signed (tokens.map Token.mark) := by
        rw [expression_negate]
        exact inner.least_le Mood.noConfusion
      rw [List.map_cons, Token.mark_of_minus isMinus, total]
      cases mood with
      | ended => exact absurd rfl isOpen
      | awaiting => exact Nat.le_trans bound (Nat.le_add_left _ _)
      | signed =>
          -- The second of two signs weighs as much as a parenthesis between them.
          exact Nat.le_trans (scale.least_le _ _ _) (Nat.add_le_add_left bound _)
  | .number _, _ => least_le_of_weightless rfl rfl rfl
  | .string _, _ => least_le_of_weightless rfl rfl rfl
  | .boolean _, _ => least_le_of_weightless rfl rfl rfl
  | .field _ means, _ => by
      rw [scale.least_of_atom rfl rfl, List.map_singleton, Token.mark_of_name? means]
      cases mood <;> exact Nat.le_refl _
  | .emptyCall _ means opens _, _ => by
      rw [scale.least_of_atom rfl rfl, List.map_cons, List.map_cons, Token.mark_of_name? means,
        Token.mark_of_leftParenthesis opens]
      cases mood <;> exact Nat.add_le_add_left (Nat.le_add_right _ _) _
  | @Phrase.call _ _ opening closing _ tokens values _ means opens inner _, _ => by
      have closed : scale.expressions values ≤
          scale.total .awaiting ((tokens ++ [closing]).map Token.mark) :=
        le_total_map_append (inner.expressions_le Mood.noConfusion)
      rw [scale.least_of_atom rfl rfl, List.map_cons, List.map_cons, Token.mark_of_name? means,
        Token.mark_of_leftParenthesis opens]
      cases mood <;> exact Nat.add_le_add_left (Nat.add_le_add_left closed _) _
  | .group opens inner _, _ =>
      least_le_of_group opens
        (Nat.le_trans (scale.expression_le_least _ _ _) (inner.least_le Mood.noConfusion))

theorem Arguments.expressions_le {nesting : Nat} {tokens : List Token}
    {values : List Expression} {mood : Mood} :
    Arguments nesting tokens values → mood ≠ .ended →
      scale.expressions values ≤ scale.total mood (tokens.map Token.mark)
  | .last item, isOpen =>
      Nat.le_trans (scale.expression_le_least _ _ _) (item.least_le isOpen)
  | .more item isComma rest, isOpen => by
      rw [List.map_append, List.map_cons]
      exact
        add_le_total (Token.awaits_of_comma isComma)
          (Nat.le_trans (scale.expression_le_least _ _ _) (item.least_le isOpen))
          fun _ => rest.expressions_le

end

theorem Phrase.expression_le {nesting : Nat} {level : Level} {tokens : List Token}
    {expression : Expression} {mood : Mood}
    (phrase : Phrase nesting level tokens expression)
    (isOpen : mood ≠ .ended) :
    scale.expression expression ≤ scale.total mood (tokens.map Token.mark) :=
  Nat.le_trans (scale.expression_le_least _ _ _) (phrase.least_le isOpen)

/-! ## Queries -/

theorem ColumnPhrase.expression_le {nesting : Nat} {tokens : List Token} {item : SelectItem}
    {mood : Mood}
    (column : ColumnPhrase nesting tokens item)
    (isOpen : mood ≠ .ended) :
    scale.expression item.expression ≤ scale.total mood (tokens.map Token.mark) := by
  cases column with
  | unnamed phrase arithmetic computes =>
      rw [SelectItem.expression_eq_of_computes arithmetic computes]
      exact phrase.expression_le isOpen
  | named phrase arithmetic computes _ _ =>
      rw [SelectItem.expression_eq_of_computes arithmetic computes]
      exact le_total_map_append (phrase.expression_le isOpen)

theorem NamePhrase.name_le {tokens : List Token} {name : String}
    (phrase : NamePhrase tokens name)
    (mood : Mood) :
    scale.name name ≤ scale.total mood (tokens.map Token.mark) := by
  cases phrase with
  | name means =>
      rw [List.map_singleton, Token.mark_of_name? means]
      cases mood <;> exact Nat.le_refl _

theorem together_le_of_separated {α : Type} {Item : List Token → α → Prop} {tokens : List Token}
    {values : List α} {mood : Mood}
    (weight : α → Nat)
    (separated : Separated Item tokens values)
    (isOpen : mood ≠ .ended)
    (isBound :
      ∀ {part : List Token} {value : α} {mood : Mood}, Item part value → mood ≠ .ended →
        weight value ≤ scale.total mood (part.map Token.mark)) :
    together weight values ≤ scale.total mood (tokens.map Token.mark) := by
  induction separated generalizing mood with
  | last item => exact isBound item isOpen
  | more item isComma _ ih =>
      rw [together, List.map_append, List.map_cons]
      exact
        add_le_total (Token.awaits_of_comma isComma) (isBound item isOpen) fun _ => ih

/-- Behind its keyword a clause weighs at least what its body does. -/
theorem together_le_of_optionalPhrase {α : Type} {word : Keyword} {Body : List Token → α → Prop}
    {tokens : List Token} {value : Option α}
    (weight : α → Nat)
    (mood : Mood)
    (phrase : OptionalPhrase [word] Body tokens value)
    (isReserved : word.isReserved = true)
    (isBound :
      ∀ {part : List Token} {value : α} {mood : Mood}, Body part value → mood ≠ .ended →
        weight value ≤ scale.total mood (part.map Token.mark)) :
    together weight value.toList ≤ scale.total mood (tokens.map Token.mark) := by
  cases phrase with
  | absent => exact Nat.zero_le _
  | @present heading _ _ introduces body =>
      obtain ⟨keyword, rfl, isWord⟩ := List.map_eq_singleton_iff.mp introduces
      exact
        le_total_cons (Token.awaits_of_keyword isWord isReserved) fun _ => isBound body

theorem names_le_of_separated {tokens : List Token} {names : List String} {mood : Mood}
    (separated : Separated NamePhrase tokens names)
    (isOpen : mood ≠ .ended) :
    scale.names names ≤ scale.total mood (tokens.map Token.mark) :=
  together_le_of_separated scale.name separated isOpen fun name _ => name.name_le _

theorem ClausePhrases.weight_le {nesting : Nat} {query : Query} {tokens : List Token}
    (clauses : ClausePhrases nesting query tokens)
    (mood : Mood) :
    scale.expressions query.condition.toList + together scale.names query.facet.toList ≤
      scale.total mood (tokens.map Token.mark) := by
  obtain ⟨conditionPhrase, facetPhrase, _, _, _, _, _⟩ := clauses
  have condition (mood : Mood) :=
    together_le_of_optionalPhrase scale.expression mood conditionPhrase rfl fun body =>
      body.phrase.expression_le
  have facet (mood : Mood) :=
    together_le_of_optionalPhrase scale.names mood facetPhrase rfl names_le_of_separated
  rw [scale.expressions_eq_together]
  simp only [List.map_append, List.append_assoc]
  rw [total_append]
  exact Nat.add_le_add (condition _) (le_total_append (facet _))

/-- The tokens of a query weigh at least what the query does. -/
theorem QueryPhrase.query_le {nesting : Nat} {tokens : List Token} {query : Query}
    (phrase : QueryPhrase nesting tokens query)
    (scale : Scale)
    (mood : Mood) :
    scale.query query ≤ scale.total mood (tokens.map Token.mark) := by
  obtain ⟨isSelect, selectPhrase, isFrom, sourcesPhrase, clausePhrases⟩ := phrase
  rw [List.map_cons, List.map_append, List.map_cons, List.map_append, Scale.query,
    scale.expressions_eq_together, together_map]
  refine le_total_cons (Token.awaits_of_keyword isSelect rfl) fun mood isOpen => ?_
  refine
    add_le_total (Token.awaits_of_keyword isFrom rfl)
      (together_le_of_separated _ selectPhrase isOpen ColumnPhrase.expression_le)
      fun mood isOpen => ?_
  rw [total_append]
  exact Nat.add_le_add (names_le_of_separated sourcesPhrase isOpen) (clausePhrases.weight_le _)

end Grammar

end EventQuery
