import EventQuery.Proofs.Grammar.OperandReading
import EventQuery.Proofs.Steps.Walk

/-!
# Steps of the readers of expressions

Each logged reader of an expression, or of a part of one, follows the reader of the
same name.  A reader may begin where its own stage may begin, and the stages of what
follows it in the grammar may begin where it stops.
-/

namespace EventQuery.Grammar

variable {setting : Setting}

/-- The rank from which stages may begin behind a whole expression. -/
def expressionExit : Nat := 31

/-- A logged reader of nested expressions follows a reader of nested expressions. -/
def NestedFollows (setting : Setting) {bound : Nat}
    (run : Logged.Nested bound) (plain : Nested bound) : Prop :=
  ∀ (context : Context) (place : Cursor) (isLater : place.size < bound) (floor : Nat),
    floor ≤ (Stage.chain .or).rank → place.depth ≤ setting.maxDepth →
      Follows setting floor place (run context place isLater) (plain context place isLater)
        expressionExit

/-- A logged reader follows a reader if what is nested in the one follows the other. -/
def ReaderFollows (setting : Setting) (entry exit : Nat)
    (run : Logged.Reader) (plain : Reader) : Prop :=
  ∀ (place : Cursor) (nested : Logged.Nested place.size) (plainNested : Nested place.size)
    (floor : Nat),
    NestedFollows setting nested plainNested → floor ≤ entry →
      place.depth ≤ setting.maxDepth →
        Follows setting floor place (run place nested) (plain place plainNested) exit

section Nested

variable {α : Type} {bound : Nat} {run : Logged.Nested bound} {plain : Nested bound}

theorem NestedFollows.after (follows : NestedFollows setting run plain)
    (parsed : Parsed α bound) :
    NestedFollows setting (run.after parsed) (plain.after parsed) :=
  fun context place _ floor => follows context place _ floor

theorem NestedFollows.onwards (follows : NestedFollows setting run plain)
    (parsed : Parsed α bound) :
    NestedFollows setting (run.onwards parsed) (plain.onwards parsed) :=
  fun context place _ floor => follows context place _ floor

end Nested

variable {floor depth : Nat} {tokens : List Token}

/-! ## Lists and constants -/

/-- A list with a closing parenthesis, if its items may begin behind its own stage. -/
theorem follows_closedList {α : Type} {bound plainBound : Nat} (exit : Nat)
    {run : (cursor : Cursor) → cursor.size ≤ bound → Logged (Parsed α cursor.size)}
    {plain : (cursor : Cursor) → cursor.size ≤ plainBound → Outcome α cursor.size}
    (items : ∀ (place : Cursor) (isWithin : place.size ≤ bound)
      (isPlainWithin : place.size ≤ plainBound) (floor : Nat),
      floor ≤ Stage.literal.rank → place.depth ≤ setting.maxDepth →
        Follows setting floor place (run place isWithin) (plain place isPlainWithin) exit)
    {floor depth : Nat} {tokens : List Token}
    (isWithin : Cursor.size ⟨tokens, depth⟩ ≤ bound)
    (isPlainWithin : Cursor.size ⟨tokens, depth⟩ ≤ plainBound)
    (isInOrder : floor ≤ Stage.closedItem.rank)
    (isShallow : depth ≤ setting.maxDepth) :
    Follows setting floor ⟨tokens, depth⟩
      (Logged.closedList setting run ⟨tokens, depth⟩ isWithin)
      (closedList setting plain ⟨tokens, depth⟩ isPlainWithin) 0 := by
  rw [Logged.closedList, closedList]
  refine .start isInOrder isShallow ?_
  refine (items ⟨tokens, depth⟩ isWithin isPlainWithin _ (Nat.le_refl _) isShallow).andThen
    fun first place isFirstShorter _ _ => ?_
  refine .take fun goesOn rest isShorter => ?_
  have isItShorter := Nat.lt_trans isShorter isFirstShorter
  cases goesOn with
  | true =>
      refine (follows_closedList exit items _ _ (Nat.zero_le _) isShallow).andThen
        fun others _ _ _ isLast => ?_
      exact .arrive rfl rfl rfl isLast
  | false => exact .arrive rfl rfl rfl (Nat.le_refl 0)
termination_by tokens.length

theorem follows_literal
    (isInOrder : floor ≤ Stage.literal.rank)
    (isShallow : depth ≤ setting.maxDepth) :
    Follows setting floor ⟨tokens, depth⟩ (Logged.literal setting ⟨tokens, depth⟩)
      (literal setting ⟨tokens, depth⟩) 0 := by
  refine .start isInOrder isShallow ?_
  refine .take fun first _ _ => ?_
  cases first with
  | whole value => exact .arrive rfl rfl rfl (Nat.le_refl 0)
  | minus =>
      refine .take fun number _ _ => ?_
      exact .arrive rfl rfl rfl (Nat.le_refl 0)

theorem follows_literalList
    (isInOrder : floor ≤ Stage.literalList.rank)
    (isShallow : depth ≤ setting.maxDepth) :
    Follows setting floor ⟨tokens, depth⟩ (Logged.literalList setting ⟨tokens, depth⟩)
      (literalList setting ⟨tokens, depth⟩) 0 := by
  refine .start isInOrder isShallow ?_
  refine .take fun opening rest _ => ?_
  refine .before ?_
  exact
    follows_closedList 0
      (fun _ _ _ _ isItInOrder isItShallow => follows_literal isItInOrder isItShallow)
      _ _ (Nat.zero_le _) isShallow

/-! ## Operands -/

theorem follows_argument
    {nested : Logged.Nested (Cursor.size ⟨tokens, depth⟩ + 1)}
    {plainNested : Nested (Cursor.size ⟨tokens, depth⟩ + 1)}
    (follows : NestedFollows setting nested plainNested)
    (isInOrder : floor ≤ Stage.argument.rank)
    (isShallow : depth ≤ setting.maxDepth) :
    Follows setting floor ⟨tokens, depth⟩ (Logged.argument setting ⟨tokens, depth⟩ nested)
      (argument setting ⟨tokens, depth⟩ plainNested) expressionExit := by
  refine .start isInOrder isShallow ?_
  refine .takeIf? ?_ fun _ star _ _ _ => .arrive rfl rfl rfl (Nat.zero_le _)
  refine .peek fun token => ?_
  cases token.content with
  | comma => exact .throw
  | rightParenthesis => exact .throw
  | _ => exact follows .value ⟨tokens, depth⟩ _ _ (Nat.le_refl _) isShallow

theorem follows_arguments
    (tokens : List Token) (depth : Nat)
    {nested : Logged.Nested (Cursor.size ⟨tokens, depth⟩ + 1)}
    {plainNested : Nested (Cursor.size ⟨tokens, depth⟩ + 1)}
    (follows : NestedFollows setting nested plainNested)
    (isInOrder : floor ≤ Stage.arguments.rank)
    (isShallow : depth ≤ setting.maxDepth) :
    Follows setting floor ⟨tokens, depth⟩ (Logged.arguments setting ⟨tokens, depth⟩ nested)
      (arguments setting ⟨tokens, depth⟩ plainNested) 0 := by
  refine .start isInOrder isShallow ?_
  refine .takeIf? ?_ fun _ closing _ _ _ => .arrive rfl rfl rfl (Nat.le_refl 0)
  refine
    follows_closedList expressionExit (fun _ _ _ _ isItInOrder isItShallow => ?_)
      _ _ (by decide) isShallow
  exact
    follows_argument (fun context inner _ floor => follows context inner _ floor)
      isItInOrder isItShallow

theorem follows_primary (context : Context) :
    ReaderFollows setting Stage.primary.rank 0 (Logged.primary setting context)
      (primary setting context) := by
  intro ⟨tokens, depth⟩ nested plainNested floor follows isInOrder isShallow
  refine .start isInOrder isShallow ?_
  refine .take fun first rest isShorter => ?_
  cases first with
  | whole value => exact .arrive rfl rfl rfl (Nat.le_refl 0)
  | group token =>
      refine .checkDepth fun isDeeper => ?_
      refine
        (follows context.inGroup ⟨rest, depth + 1⟩ isShorter 0 (Nat.zero_le _)
          isDeeper).andThen fun inner _ _ _ _ => ?_
      refine .take fun closing _ _ => ?_
      exact .arrive rfl rfl rfl (Nat.le_refl 0)
  | name name =>
      refine .takeIf? (.arrive rfl rfl rfl (Nat.le_refl 0)) fun _ opening rest isItShorter _ => ?_
      refine .checkDepth fun isDeeper => ?_
      have followsOnwards :=
        (follows.after ⟨OperandStart.name name, ⟨_, depth⟩, isShorter⟩).onwards
          ⟨opening, ⟨rest, depth⟩, isItShorter⟩
      refine (follows_arguments rest (depth + 1) followsOnwards (Nat.zero_le _) isDeeper).andThen
        fun values _ _ _ isLast => ?_
      exact .arrive rfl rfl rfl isLast

theorem follows_signed
    (context : Context) (tokens : List Token) (depth : Nat)
    {floor : Nat}
    {nested : Logged.Nested (Cursor.size ⟨tokens, depth⟩)}
    {plainNested : Nested (Cursor.size ⟨tokens, depth⟩)}
    (follows : NestedFollows setting nested plainNested)
    (isInOrder : floor ≤ Stage.signed.rank)
    (isShallow : depth ≤ setting.maxDepth) :
    Follows setting floor ⟨tokens, depth⟩
      (Logged.signed setting context ⟨tokens, depth⟩ nested)
      (signed setting context ⟨tokens, depth⟩ plainNested) 0 := by
  rw [Logged.signed, signed]
  refine .start isInOrder isShallow ?_
  refine .takeIf? ?_ fun _ minus rest isShorter _ => ?_
  · exact follows_primary context _ _ _ _ follows (Nat.le_refl _) isShallow
  · refine .checkDepth fun isDeeper => ?_
    refine
      (follows_signed .value rest (depth + 1)
        (follows.after ⟨minus, ⟨rest, depth⟩, isShorter⟩) (Nat.zero_le _)
        isDeeper).andThen fun operand _ _ _ isLast => ?_
    exact .arrive rfl rfl rfl isLast
termination_by tokens.length

/-! ## Arithmetic -/

/-- The rank behind the loop of the operators of at least some precedence. -/
def arithmeticExit (least : Nat) : Nat := (Stage.arithmeticAfter least).rank + 1

/-- The loops of tighter operators come before the loops of looser ones. -/
theorem arithmeticExit_le {least : Nat} {operator : Arithmetic} {token : Token}
    (accepted : operatorAtLeast? least token = some operator) :
    arithmeticExit (operator.precedence + 1) ≤ (Stage.arithmeticAfter least).rank := by
  obtain ⟨_, isTight⟩ := operatorAtLeast?_eq_some_iff.mp accepted
  have isSmall : operator.precedence ≤ 6 := by cases operator <;> decide
  simp only [arithmeticExit, Stage.rank]
  omega

theorem follows_arithmeticAfter
    (least : Nat)
    (left : Expression)
    {floor depth : Nat} {tokens : List Token}
    {nested : Logged.Nested (Cursor.size ⟨tokens, depth⟩)}
    {plainNested : Nested (Cursor.size ⟨tokens, depth⟩)}
    (follows : NestedFollows setting nested plainNested)
    (isInOrder : floor ≤ (Stage.arithmeticAfter least).rank)
    (isShallow : depth ≤ setting.maxDepth) :
    Follows setting floor ⟨tokens, depth⟩
      (Logged.arithmeticAfter setting least left ⟨tokens, depth⟩ nested)
      (arithmeticAfter setting least left ⟨tokens, depth⟩ plainNested)
      (arithmeticExit least) := by
  rw [Logged.arithmeticAfter, arithmeticAfter]
  refine .start isInOrder isShallow ?_
  refine .takeIf? (.arrive rfl rfl rfl (Nat.le_refl _)) fun _ operator rest isShorter accepted => ?_
  have followsLater := follows.after ⟨operator, ⟨rest, depth⟩, isShorter⟩
  refine (follows_signed .value rest depth followsLater (Nat.zero_le _) isShallow).andThen
    fun operand place isOperandShorter last isLast => ?_
  have followsOperand := followsLater.after ⟨operand, ⟨place, depth⟩, isOperandShorter⟩
  have isItShorter := Nat.lt_trans isOperandShorter isShorter
  have climbs :=
    follows_arithmeticAfter (operator.precedence + 1) operand followsOperand
      (Nat.le_trans isLast (Nat.zero_le _)) isShallow
  refine climbs.beforeRest.andThen fun right behind isRightShorter last isLast => ?_
  have followsRight := followsLater.after ⟨right, ⟨behind, depth⟩, isRightShorter⟩
  have isRestShorter := Nat.lt_trans isRightShorter isShorter
  have goesOn :=
    follows_arithmeticAfter least (.binary (.arithmetic operator) left right) followsRight
      (Nat.le_trans isLast (arithmeticExit_le accepted)) isShallow
  exact goesOn.beforeRest.before.relaxed
termination_by tokens.length

theorem follows_arithmetic (context : Context) :
    ReaderFollows setting Stage.arithmetic.rank Stage.testAfter.rank
      (Logged.arithmetic setting context) (arithmetic setting context) := by
  intro ⟨tokens, depth⟩ nested plainNested floor follows isInOrder isShallow
  refine .start isInOrder isShallow ?_
  refine (follows_signed context tokens depth follows (Nat.le_refl _) isShallow).andThen
    fun first place isShorter last isLast => ?_
  have goesOn :=
    follows_arithmeticAfter 0 first (follows.after ⟨first, ⟨place, depth⟩, isShorter⟩)
      (Nat.le_trans isLast (Nat.zero_le _)) isShallow
  exact goesOn.beforeRest

/-! ## Comparisons and tests -/

theorem follows_testBody
    (name : String) (isNegated : Bool) (test : Test) (tokens : List Token)
    (isInOrder : floor ≤ Stage.testBody.rank)
    (isShallow : depth ≤ setting.maxDepth) :
    Follows setting floor ⟨tokens, depth⟩
      (Logged.testBody setting name isNegated test ⟨tokens, depth⟩)
      (testBody setting name isNegated test ⟨tokens, depth⟩) 0 := by
  refine .start isInOrder isShallow ?_
  cases test with
  | membership =>
      refine (follows_literalList (Nat.le_refl _) isShallow).andThen
        fun values _ _ _ isLast => ?_
      exact .arrive rfl rfl rfl isLast
  | pattern => exact .take fun pattern _ _ => .arrive rfl rfl rfl (Nat.le_refl 0)

theorem follows_testAfter
    (first : Token) (left : Expression) (tokens : List Token)
    (isInOrder : floor ≤ Stage.testAfter.rank)
    (isShallow : depth ≤ setting.maxDepth) :
    Follows setting floor ⟨tokens, depth⟩
      (Logged.testAfter setting first left ⟨tokens, depth⟩)
      (testAfter setting first left ⟨tokens, depth⟩) (Stage.chainAfter .and).rank := by
  refine .start isInOrder isShallow ?_
  refine .takeIf? ?_ fun _ word _ _ _ => ?_
  · refine .takeIf? (.arrive rfl rfl rfl (Nat.le_refl _)) fun _ test rest _ _ => ?_
    refine .check fun name _ => ?_
    have body := follows_testBody name false test rest (Nat.zero_le _) isShallow
    refine .relaxed (.before ?_)
    exact body.weaken (Nat.zero_le _)
  · refine .take fun test rest _ => ?_
    refine .check fun name _ => ?_
    have body := follows_testBody name true test rest (Nat.zero_le _) isShallow
    refine .relaxed (.before (.before ?_))
    exact body.weaken (Nat.zero_le _)

theorem follows_comparison (context : Context) :
    ReaderFollows setting Stage.comparison.rank (Stage.chainAfter .and).rank
      (Logged.comparison setting context) (comparison setting context) := by
  intro ⟨tokens, depth⟩ nested plainNested floor follows isInOrder isShallow
  refine .start isInOrder isShallow ?_
  refine .peek fun first => ?_
  refine (follows_arithmetic context _ _ _ _ follows (Nat.le_refl _) isShallow).andThen
    fun left place isShorter last isLast => ?_
  have followsLeft := follows.after ⟨left, ⟨place, depth⟩, isShorter⟩
  refine .takeIf? ?_ fun _ operator rest isOperatorShorter _ => ?_
  · have goesOn := follows_testAfter first left place isLast isShallow
    exact goesOn.beforeRest
  · have followsOperator := followsLeft.after ⟨operator, ⟨rest, depth⟩, isOperatorShorter⟩
    refine
      (follows_arithmetic .value _ _ _ _ followsOperator (Nat.zero_le _) isShallow).andThen
        fun right _ _ _ isLast => ?_
    exact .arrive rfl rfl rfl (Nat.le_trans isLast (by decide))

/-! ## Negations and connectives -/

theorem follows_negation
    (context : Context) (tokens : List Token) (depth : Nat)
    {floor : Nat}
    {nested : Logged.Nested (Cursor.size ⟨tokens, depth⟩)}
    {plainNested : Nested (Cursor.size ⟨tokens, depth⟩)}
    (follows : NestedFollows setting nested plainNested)
    (isInOrder : floor ≤ Stage.negation.rank)
    (isShallow : depth ≤ setting.maxDepth) :
    Follows setting floor ⟨tokens, depth⟩
      (Logged.negation setting context ⟨tokens, depth⟩ nested)
      (negation setting context ⟨tokens, depth⟩ plainNested)
      (Stage.chainAfter .and).rank := by
  rw [Logged.negation, negation]
  refine .start isInOrder isShallow ?_
  refine .peek fun first => ?_
  refine .takeIf? ?_ fun _ word rest isShorter _ => ?_
  · refine (follows_comparison context _ _ _ _ follows (Nat.le_refl _) isShallow).andThen
      fun result _ _ _ isLast => ?_
    split
    · exact .check fun _ _ => .arrive rfl rfl rfl isLast
    · exact .arrive rfl rfl rfl isLast
  · refine .checkDepth fun isDeeper => ?_
    refine
      (follows_negation context.afterNot rest (depth + 1)
        (follows.after ⟨word, ⟨rest, depth⟩, isShorter⟩) (Nat.zero_le _)
        isDeeper).andThen fun operand _ _ _ isLast => ?_
    exact .arrive rfl rfl rfl isLast
termination_by tokens.length

theorem follows_chainAfter
    (connective : Connective) (context : Context)
    {run : Logged.Reader} {plain : Reader} {entry : Nat}
    (operands :
      ReaderFollows setting entry (Stage.chainAfter connective).rank run plain)
    (first : Token) (left : Expression)
    {floor depth : Nat} {tokens : List Token}
    {nested : Logged.Nested (Cursor.size ⟨tokens, depth⟩)}
    {plainNested : Nested (Cursor.size ⟨tokens, depth⟩)}
    (follows : NestedFollows setting nested plainNested)
    (isInOrder : floor ≤ (Stage.chainAfter connective).rank)
    (isShallow : depth ≤ setting.maxDepth) :
    Follows setting floor ⟨tokens, depth⟩
      (Logged.chainAfter setting connective context run first left ⟨tokens, depth⟩ nested)
      (chainAfter setting connective context plain first left ⟨tokens, depth⟩ plainNested)
      ((Stage.chainAfter connective).rank + 1) := by
  rw [Logged.chainAfter, chainAfter]
  refine .start isInOrder isShallow ?_
  refine .takeIf? (.arrive rfl rfl rfl (Nat.le_refl _)) fun _ word rest isShorter _ => ?_
  refine .check fun _ _ => ?_
  refine .peek fun rightFirst => ?_
  have followsWord := follows.after ⟨word, ⟨rest, depth⟩, isShorter⟩
  refine (operands _ _ _ _ followsWord (Nat.zero_le _) isShallow).andThen
    fun right behind isRightShorter last isLast => ?_
  refine .check fun _ _ => ?_
  have isRestShorter := Nat.lt_trans isRightShorter isShorter
  have goesOn :=
    follows_chainAfter connective context operands first
      (.binary (.logical connective) left right)
      (followsWord.after ⟨right, ⟨behind, depth⟩, isRightShorter⟩) isLast isShallow
  exact goesOn.beforeRest.before.relaxed
termination_by tokens.length

/-- A chain of operands that may begin behind its own stage. -/
theorem follows_chain
    (connective : Connective) (context : Context)
    {run : Logged.Reader} {plain : Reader}
    (operands :
      ReaderFollows setting ((Stage.chain connective).rank + 1)
        (Stage.chainAfter connective).rank run plain) :
    ReaderFollows setting (Stage.chain connective).rank
      ((Stage.chainAfter connective).rank + 1)
      (Logged.chain setting connective context run)
      (chain setting connective context plain) := by
  intro ⟨tokens, depth⟩ nested plainNested floor follows isInOrder isShallow
  refine .start isInOrder isShallow ?_
  refine .peek fun first => ?_
  refine (operands _ _ _ _ follows (Nat.le_refl _) isShallow).andThen
    fun left place isShorter last isLast => ?_
  have goesOn :=
    follows_chainAfter connective context operands first left
      (follows.after ⟨left, ⟨place, depth⟩, isShorter⟩) isLast isShallow
  exact goesOn.beforeRest

theorem follows_conjunction (context : Context) :
    ReaderFollows setting (Stage.chain .and).rank (Stage.chainAfter .or).rank
      (Logged.chain setting .and context (Logged.negation setting context))
      (chain setting .and context (negation setting context)) := by
  refine follows_chain .and context ?_
  intro _ _ _ _ follows isInOrder isShallow
  exact follows_negation context _ _ follows isInOrder isShallow

theorem follows_disjunction (context : Context) :
    ReaderFollows setting (Stage.chain .or).rank expressionExit
      (Logged.disjunction setting context) (disjunction setting context) :=
  follows_chain .or context (follows_conjunction context)

/-- The logged reader of expressions follows the reader of expressions. -/
theorem follows_expression
    (context : Context)
    (place : Cursor)
    {floor : Nat}
    (isInOrder : floor ≤ (Stage.chain .or).rank)
    (isShallow : place.depth ≤ setting.maxDepth) :
    Follows setting floor place (Logged.expression setting context place)
      (expression setting context place) expressionExit := by
  rw [Logged.expression, expression]
  refine follows_disjunction context _ _ _ _ ?_ isInOrder isShallow
  intro innerContext inner isLater _ isInnerInOrder isInnerShallow
  exact follows_expression innerContext inner isInnerInOrder isInnerShallow
termination_by place.size

theorem nestedFollows_expression (bound : Nat) :
    NestedFollows setting (Logged.nestedExpression setting bound)
      (nestedExpression setting bound) :=
  fun context place _ _ => follows_expression context place

end EventQuery.Grammar
