import EventQuery.Canonical.Query
import EventQuery.Proofs.Grammar.WellFormed

/-!
# How deeply canonical text is nested

Canonical text puts parentheses where an operand binds looser than its place
demands, and where two minus signs would meet.  A text that was read has the
first kind of parentheses too, but it may keep the signs apart by a blank.  So
canonical text is deeper than the text that was read by one level for each pair
of signs that meet, and by no more; each of these signs has a level of its own
in the text that was read, so the nesting at most doubles.
-/

namespace EventQuery

open Grammar Expression

/-- The nesting of an operand that may stand in parentheses. -/
def enclosedNesting (inParentheses : Bool) (nesting : Nat) : Nat :=
  if inParentheses then nesting + 1 else nesting

theorem enclosedNesting_le_succ (inParentheses : Bool) (nesting : Nat) :
    enclosedNesting inParentheses nesting ≤ nesting + 1 := by
  unfold enclosedNesting
  split <;> omega

theorem enclosedNesting_mono {nesting bound : Nat} (inParentheses : Bool)
    (isWithin : nesting ≤ bound) :
    enclosedNesting inParentheses nesting ≤ enclosedNesting inParentheses bound := by
  unfold enclosedNesting
  split <;> omega

theorem enclosedNesting_le_add_one {nesting bound : Nat} (inParentheses : Bool)
    (isWithin : nesting ≤ bound + 1) :
    enclosedNesting inParentheses nesting ≤ enclosedNesting inParentheses bound + 1 := by
  unfold enclosedNesting
  split <;> omega

theorem enclosedNesting_add (inParentheses : Bool) (first second : Nat) :
    enclosedNesting inParentheses (first + second) =
      first + enclosedNesting inParentheses second := by
  unfold enclosedNesting
  split <;> omega

namespace BinaryOperator

/-- The level of the phrases that an operator makes. -/
def level : BinaryOperator → Level
  | logical connective => .ofConnective connective
  | comparison _ => .comparison
  | arithmetic operator => .ofArithmetic operator

/-- The level of the left operands of an operator. -/
def leftLevel : BinaryOperator → Level
  | logical connective => .ofConnective connective
  | comparison _ => .sum
  | arithmetic operator => .ofArithmetic operator

/-- The level of the right operands of an operator. -/
def rightLevel : BinaryOperator → Level
  | logical connective => (Level.ofConnective connective).tighter
  | comparison _ => .sum
  | arithmetic operator => (Level.ofArithmetic operator).tighter

theorem strength_level (operator : BinaryOperator) :
    operator.level.strength = operator.precedence := by
  rcases operator with connective | comparison | operator
  · cases connective <;> rfl
  · rfl
  · cases operator <;> rfl

theorem strength_leftLevel (operator : BinaryOperator) :
    operator.leftLevel.strength = operator.leftDemand := by
  rcases operator with connective | comparison | operator
  · cases connective <;> rfl
  · rfl
  · cases operator <;> rfl

theorem strength_rightLevel (operator : BinaryOperator) :
    operator.rightLevel.strength = operator.rightDemand := by
  rcases operator with connective | comparison | operator
  · cases connective <;> rfl
  · rfl
  · cases operator <;> rfl

end BinaryOperator

namespace Expression

/-- The level of the canonical text of an expression. -/
def level : Expression → Level
  | literal (.number value) => if value.isNegative then .signed else .primary
  | literal _ => .primary
  | field _ => .primary
  | wildcard => .argument
  | call _ _ => .primary
  | binary operator _ _ => operator.level
  | unary .not _ => .negation
  | unary .negate _ => .signed
  | member _ _ _ => .comparison
  | matching _ _ _ => .comparison

theorem precedence_pos (expression : Expression) : 0 < expression.precedence := by
  fun_cases precedence expression
  case case1 operator _ _ =>
    rcases operator with connective | comparison | operator
    · cases connective <;> decide
    · exact of_decide_eq_true rfl
    · cases operator <;> decide
  all_goals decide

/-- Canonical text binds as tightly as its level, but for the star. -/
theorem precedence_le_strength {expression : Expression}
    (isNoStar : expression ≠ .wildcard) :
    expression.precedence ≤ expression.level.strength := by
  fun_cases level expression
  case case5 => exact absurd rfl isNoStar
  case case7 operator _ _ => exact Nat.le_of_eq operator.strength_level.symm
  all_goals exact of_decide_eq_true rfl

mutual

/-- How deeply the canonical text of an expression is nested. -/
def nesting : Expression → Nat
  | literal (.number value) => if value.isNegative then 1 else 0
  | call _ arguments => listNesting arguments + 1
  | binary operator left right =>
      max (enclosedNesting (left.precedence < operator.leftDemand) left.nesting)
        (enclosedNesting (right.precedence < operator.rightDemand) right.nesting)
  | unary .not operand =>
      enclosedNesting (operand.precedence < negationPrecedence) operand.nesting + 1
  | unary .negate operand =>
      enclosedNesting
        (operand.startsWithMinus || operand.precedence < atomPrecedence)
        operand.nesting + 1
  | _ => 0

/-- The nesting of the most deeply nested of some expressions. -/
def listNesting : List Expression → Nat
  | [] => 0
  | first :: others => max first.nesting (listNesting others)

end

theorem nesting_le_listNesting {expression : Expression} {expressions : List Expression}
    (isIn : expression ∈ expressions) :
    expression.nesting ≤ listNesting expressions := by
  induction expressions with
  | nil => cases isIn
  | cons first others ih =>
      rw [listNesting]
      rcases List.mem_cons.mp isIn with rfl | isLater
      · exact Nat.le_max_left _ _
      · exact Nat.le_trans (ih isLater) (Nat.le_max_right _ _)

mutual

/-- How many minus signs meet another one right behind them, on one way down at most. -/
def doubledSigns : Expression → Nat
  | call _ arguments => listDoubledSigns arguments
  | binary _ left right => max left.doubledSigns right.doubledSigns
  | unary .not operand => operand.doubledSigns
  | unary .negate operand => enclosedNesting operand.startsWithMinus operand.doubledSigns
  | _ => 0

/-- The doubled signs of the expression that has most of them. -/
def listDoubledSigns : List Expression → Nat
  | [] => 0
  | first :: others => max first.doubledSigns (listDoubledSigns others)

end

/-- The nesting of the canonical text where a level is demanded. -/
def nestingAt (level : Level) (expression : Expression) : Nat :=
  enclosedNesting (expression.precedence < min level.strength atomPrecedence)
    expression.nesting

/-- No level demands less nesting than a looser one. -/
theorem nestingAt_mono {loose tight : Level} (expression : Expression)
    (isLooser : loose.strength ≤ tight.strength) :
    expression.nestingAt loose ≤ expression.nestingAt tight := by
  unfold nestingAt enclosedNesting
  simp only [decide_eq_true_eq]
  split <;> split <;> omega

theorem nesting_le_nestingAt (level : Level) (expression : Expression) :
    expression.nesting ≤ expression.nestingAt level := by
  unfold nestingAt enclosedNesting
  split <;> omega

theorem nestingAt_le_succ (level : Level) (expression : Expression) :
    expression.nestingAt level ≤ expression.nesting + 1 :=
  enclosedNesting_le_succ _ _

/-- Where little enough is demanded there are no parentheses. -/
theorem nestingAt_eq_nesting {level : Level} {expression : Expression}
    (fits : min level.strength atomPrecedence ≤ expression.precedence) :
    expression.nestingAt level = expression.nesting := by
  unfold nestingAt enclosedNesting
  rw [decide_eq_false (Nat.not_lt.mpr fits)]
  rfl

theorem nesting_binary (operator : BinaryOperator) (left right : Expression) :
    (binary operator left right).nesting =
      max (left.nestingAt operator.leftLevel) (right.nestingAt operator.rightLevel) := by
  have leftDemand : min operator.leftLevel.strength atomPrecedence = operator.leftDemand := by
    rw [operator.strength_leftLevel]
    rcases operator with connective | comparison | operator
    · cases connective <;> rfl
    · rfl
    · cases operator <;> rfl
  have rightDemand :
      min operator.rightLevel.strength atomPrecedence = operator.rightDemand := by
    rw [operator.strength_rightLevel]
    rcases operator with connective | comparison | operator
    · cases connective <;> rfl
    · rfl
    · cases operator <;> rfl
  rw [nesting, nestingAt, nestingAt, leftDemand, rightDemand]

theorem nesting_not (operand : Expression) :
    (unary .not operand).nesting = operand.nestingAt .negation + 1 :=
  rfl

/-- A minus sign takes parentheses of its own in front of another one only. -/
theorem nesting_negate_le (operand : Expression) :
    (unary .negate operand).nesting ≤
      enclosedNesting operand.startsWithMinus (operand.nestingAt .signed) + 1 := by
  have atLevel := operand.nesting_le_nestingAt .signed
  rw [nesting]
  cases operand.startsWithMinus with
  | true => exact Nat.succ_le_succ (Nat.succ_le_succ atLevel)
  | false => exact Nat.le_refl _

/-- An operation needs no parentheses at its own level. -/
theorem nestingAt_binary_le {operator : BinaryOperator} {left right : Expression}
    {bound : Nat}
    (leftBound : left.nestingAt operator.leftLevel ≤ bound + left.doubledSigns)
    (rightBound : right.nestingAt operator.rightLevel ≤ bound + right.doubledSigns) :
    (binary operator left right).nestingAt operator.level ≤
      bound + (binary operator left right).doubledSigns := by
  rw [nestingAt_eq_nesting, nesting_binary, doubledSigns]
  · omega
  · exact Nat.le_trans (Nat.min_le_left _ _) (Nat.le_of_eq operator.strength_level)

theorem nestingAt_of_atom {level : Level} {expression : Expression}
    (isAtom : expression.precedence = atomPrecedence) :
    expression.nestingAt level = expression.nesting :=
  nestingAt_eq_nesting (isAtom ▸ Nat.min_le_right _ _)

theorem nesting_number_of_unsigned {value : Number} (isUnsigned : value.isNegative = false) :
    (literal (.number value)).nesting = 0 := by
  rw [nesting, if_neg (by simp [isUnsigned])]

theorem nesting_number_le (value : Number) : (literal (.number value)).nesting ≤ 1 := by
  rw [nesting]
  split <;> decide

end Expression

/-- The doubled signs of the expression of a query that has most of them. -/
def Query.doubledSigns (query : Query) : Nat :=
  max (listDoubledSigns (query.select.map SelectItem.expression))
    (listDoubledSigns query.condition.toList)

/-- How deeply the canonical text of a query is nested. -/
def Query.nesting (query : Query) : Nat :=
  max (listNesting (query.select.map SelectItem.expression))
    (listNesting query.condition.toList)

/-! ## The nesting of a text that was read -/

namespace Grammar

theorem TestPhrase.nestingAt_eq_zero {name : String} {tokens : List Token}
    {expression : Expression}
    (test : TestPhrase name tokens expression) :
    expression.nestingAt .comparison = 0 := by
  cases test <;> rfl

mutual

/-- Every doubled sign is a level of nesting in any text that says the same. -/
theorem Phrase.doubledSigns_le {nesting : Nat} {level : Level}
    {tokens : List Token} {expression : Expression} :
    Phrase nesting level tokens expression → expression.doubledSigns ≤ nesting
  | .loosen inner => inner.doubledSigns_le
  | .star _ => Nat.zero_le _
  | .connected leftPhrase _ rightPhrase =>
      Nat.max_le.mpr ⟨leftPhrase.doubledSigns_le, rightPhrase.doubledSigns_le⟩
  | .negation _ inner => Nat.le_succ_of_le inner.doubledSigns_le
  | .compared leftPhrase _ rightPhrase =>
      Nat.max_le.mpr ⟨leftPhrase.doubledSigns_le, rightPhrase.doubledSigns_le⟩
  | .tested _ test => by cases test <;> exact Nat.zero_le _
  | .computed leftPhrase _ rightPhrase =>
      Nat.max_le.mpr ⟨leftPhrase.doubledSigns_le, rightPhrase.doubledSigns_le⟩
  | .opposite _ _ _ => Nat.zero_le _
  | .minus _ inner _ =>
      Nat.le_trans (enclosedNesting_le_succ _ _) (Nat.succ_le_succ inner.doubledSigns_le)
  | .number _ => Nat.zero_le _
  | .string _ => Nat.zero_le _
  | .boolean _ => Nat.zero_le _
  | .field _ _ => Nat.zero_le _
  | .emptyCall _ _ _ _ => Nat.zero_le _
  | .call _ _ _ inner _ => Nat.le_succ_of_le inner.listDoubledSigns_le
  | .group _ inner _ => Nat.le_succ_of_le inner.doubledSigns_le

theorem Arguments.listDoubledSigns_le {nesting : Nat}
    {tokens : List Token} {values : List Expression} :
    Arguments nesting tokens values → listDoubledSigns values ≤ nesting
  | .last item => Nat.max_le.mpr ⟨item.doubledSigns_le, Nat.zero_le _⟩
  | .more item _ rest => Nat.max_le.mpr ⟨item.doubledSigns_le, rest.listDoubledSigns_le⟩

end

mutual

/-- Canonical text is deeper than any text that says the same by its doubled signs at most. -/
theorem Phrase.nestingAt_le {nesting : Nat} {level : Level}
    {tokens : List Token} {expression : Expression} :
    Phrase nesting level tokens expression → AreProper tokens →
      expression.nestingAt level ≤ nesting + expression.doubledSigns
  | .loosen inner, areProper => by
      have bound := inner.nestingAt_le areProper
      have isLooser := expression.nestingAt_mono level.strength_le_tighter
      omega
  | .star _, _ => Nat.zero_le _
  | @Phrase.connected _ connective _ _ _ left right leftPhrase _ rightPhrase, areProper => by
      obtain ⟨leftProper, rightProper⟩ := areProper_append.mp areProper
      exact
        @nestingAt_binary_le (.logical connective) left right _
          (leftPhrase.nestingAt_le leftProper)
          (rightPhrase.nestingAt_le (areProper_cons.mp rightProper).2)
  | .negation _ inner, areProper => by
      have bound := inner.nestingAt_le (areProper_cons.mp areProper).2
      rw [nestingAt_eq_nesting (Nat.min_le_left _ _), nesting_not, doubledSigns]
      omega
  | @Phrase.compared _ comparison _ _ _ left right leftPhrase _ rightPhrase, areProper => by
      obtain ⟨leftProper, rightProper⟩ := areProper_append.mp areProper
      exact
        @nestingAt_binary_le (.comparison comparison) left right _
          (leftPhrase.nestingAt_le leftProper)
          (rightPhrase.nestingAt_le (areProper_cons.mp rightProper).2)
  | .tested _ test, _ => by
      rw [test.nestingAt_eq_zero]
      exact Nat.zero_le _
  | @Phrase.computed _ operator _ _ _ left right leftPhrase _ rightPhrase, areProper => by
      obtain ⟨leftProper, rightProper⟩ := areProper_append.mp areProper
      exact
        @nestingAt_binary_le (.arithmetic operator) left right _
          (leftPhrase.nestingAt_le leftProper)
          (rightPhrase.nestingAt_le (areProper_cons.mp rightProper).2)
  | @Phrase.opposite _ _ _ _ opposite _ _ _, _ => by
      rw [nestingAt_of_atom rfl]
      have bound := nesting_number_le opposite
      omega
  | @Phrase.minus nesting _ _ operand _ inner _, areProper => by
      have bound := inner.nestingAt_le (areProper_cons.mp areProper).2
      rw [nestingAt_of_atom rfl]
      -- The parentheses between two signs are the doubled sign that is counted.
      calc (unary .negate operand).nesting
          ≤ enclosedNesting operand.startsWithMinus (operand.nestingAt .signed) + 1 :=
            operand.nesting_negate_le
        _ ≤ enclosedNesting operand.startsWithMinus (nesting + operand.doubledSigns) + 1 :=
            Nat.succ_le_succ (enclosedNesting_mono _ bound)
        _ = nesting + 1 + (unary .negate operand).doubledSigns := by
            rw [enclosedNesting_add, doubledSigns]
            omega
  | .number means, areProper => by
      have isUnsigned := (areProper _ List.mem_cons_self).isUnsigned means
      rw [nestingAt_of_atom rfl, nesting_number_of_unsigned isUnsigned]
      exact Nat.zero_le _
  | .string _, _ => Nat.zero_le _
  | .boolean _, _ => Nat.zero_le _
  | .field _ _, _ => Nat.zero_le _
  | .emptyCall _ _ _ _, _ => by
      rw [nestingAt_of_atom rfl, Expression.nesting, listNesting]
      omega
  | .call _ _ _ inner _, areProper => by
      have innerProper := (areProper_cons.mp (areProper_cons.mp areProper).2).2
      have bound := inner.listNesting_le (areProper_append.mp innerProper).1
      rw [nestingAt_of_atom rfl, Expression.nesting, doubledSigns]
      omega
  | .group _ inner _, areProper => by
      have innerProper := (areProper_cons.mp areProper).2
      have bound := inner.nestingAt_le (areProper_append.mp innerProper).1
      have inside := expression.nesting_le_nestingAt .disjunction
      have outside := expression.nestingAt_le_succ .primary
      omega

theorem Arguments.listNesting_le {nesting : Nat}
    {tokens : List Token} {values : List Expression} :
    Arguments nesting tokens values → AreProper tokens →
      listNesting values ≤ nesting + listDoubledSigns values
  | @Arguments.last _ _ value item, areProper => by
      have bound := item.nestingAt_le areProper
      have inside := value.nesting_le_nestingAt .argument
      rw [listNesting, listNesting, listDoubledSigns]
      omega
  | @Arguments.more _ _ _ _ value _ item _ rest, areProper => by
      obtain ⟨itemProper, restProper⟩ := areProper_append.mp areProper
      have bound := item.nestingAt_le itemProper
      have restBound := rest.listNesting_le (areProper_cons.mp restProper).2
      have inside := value.nesting_le_nestingAt .argument
      rw [listNesting, listDoubledSigns]
      omega

end

/-- An expression that was read, with the nesting of its text and of its canonical one. -/
structure NestsWithin (nesting : Nat) (expression : Expression) : Prop where
  nesting_le : expression.nesting ≤ nesting + expression.doubledSigns
  doubledSigns_le : expression.doubledSigns ≤ nesting

theorem Phrase.nestsWithin {nesting : Nat} {level : Level}
    {tokens : List Token} {expression : Expression}
    (areProper : AreProper tokens)
    (phrase : Phrase nesting level tokens expression) :
    NestsWithin nesting expression where
  nesting_le :=
    Nat.le_trans (nesting_le_nestingAt level expression) (phrase.nestingAt_le areProper)
  doubledSigns_le := phrase.doubledSigns_le

theorem nestsWithin_of_columnPhrase
    {nesting : Nat} {tokens : List Token} {item : SelectItem}
    (areProper : AreProper tokens)
    (column : ColumnPhrase nesting tokens item) :
    NestsWithin nesting item.expression := by
  cases column with
  | unnamed phrase arithmetic computes =>
      rw [SelectItem.expression_eq_of_computes arithmetic computes]
      exact phrase.nestsWithin areProper
  | named phrase arithmetic computes _ _ =>
      rw [SelectItem.expression_eq_of_computes arithmetic computes]
      exact phrase.nestsWithin (areProper_append.mp areProper).1

theorem listNesting_le_of_forall {expressions : List Expression} {nesting : Nat}
    (areWithin : ∀ expression ∈ expressions, NestsWithin nesting expression) :
    listNesting expressions ≤ nesting + listDoubledSigns expressions ∧
      listDoubledSigns expressions ≤ nesting := by
  induction expressions with
  | nil => exact ⟨Nat.zero_le _, Nat.zero_le _⟩
  | cons first others ih =>
      obtain ⟨⟨firstNesting, firstSigns⟩, othersWithin⟩ := List.forall_mem_cons.mp areWithin
      obtain ⟨othersNesting, othersSigns⟩ := ih othersWithin
      rw [listNesting, listDoubledSigns]
      omega

/-- What the nesting of a query that was read bounds in its canonical text. -/
theorem QueryPhrase.nesting_le_add {nesting : Nat} {tokens : List Token} {query : Query}
    (phrase : QueryPhrase nesting tokens query)
    (areProper : AreProper tokens) :
    query.nesting ≤ nesting + query.doubledSigns ∧ query.doubledSigns ≤ nesting := by
  obtain ⟨isSelect, selectPhrase, isFrom, sourcesPhrase, clausePhrases⟩ := phrase
  obtain ⟨conditionPhrase, _⟩ := clausePhrases
  simp only [areProper_cons, areProper_append] at areProper
  obtain ⟨_, selectProper, _, _, clausesProper⟩ := areProper
  have columns :=
    (forall_of_separated selectPhrase selectProper nestsWithin_of_columnPhrase).2
  have condition :=
    forall_of_optionalPhrase conditionPhrase clausesProper.1.1.1.1.1.1
      fun areProper condition => condition.phrase.nestsWithin areProper
  have inColumns :
      ∀ expression ∈ query.select.map SelectItem.expression,
        NestsWithin nesting expression := by
    intro expression isIn
    obtain ⟨item, isItem, rfl⟩ := List.mem_map.mp isIn
    exact columns item isItem
  have inCondition : ∀ expression ∈ query.condition.toList, NestsWithin nesting expression :=
    fun expression isIn => condition expression (Option.mem_toList.mp isIn)
  have columnsBound := listNesting_le_of_forall inColumns
  have conditionBound := listNesting_le_of_forall inCondition
  unfold Query.nesting Query.doubledSigns
  omega

/-- The canonical text of a query is nested at most twice as deeply as the query was. -/
theorem QueryPhrase.nesting_le {nesting : Nat} {tokens : List Token} {query : Query}
    (phrase : QueryPhrase nesting tokens query)
    (areProper : AreProper tokens) :
    query.nesting ≤ 2 * nesting := by
  have bound := phrase.nesting_le_add areProper
  omega

end Grammar

end EventQuery
