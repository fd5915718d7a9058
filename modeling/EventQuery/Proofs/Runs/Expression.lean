import EventQuery.Proofs.Runs.Agreement

/-!
# Expressions in two runs

Every reader of expressions agrees with itself on corresponding tokens.  The
readers of what is nested further on are a parameter of most readers here, and
`expression_agree` closes the circle along the number of tokens ahead.
-/

namespace EventQuery.Grammar.TwoRuns

variable {runs : TwoRuns}

/-- Two readers of nested expressions that agree wherever both may be used. -/
def NestedAgree {bound otherBound : Nat} (runs : TwoRuns)
    (nested : Nested bound) (other : Nested otherBound) : Prop :=
  ∀ (context : Context) (place otherPlace : Cursor)
    (isLater : place.size < bound) (isOtherLater : otherPlace.size < otherBound),
    runs.PlacesAgree place otherPlace →
      runs.ReadAlike (nested context place isLater) (other context otherPlace isOtherLater)

section Nested

variable {α β : Type} {bound otherBound : Nat}
  {nested : Nested bound} {other : Nested otherBound}

theorem NestedAgree.after
    (agree : runs.NestedAgree nested other)
    (parsed : Parsed α bound) (otherParsed : Parsed β otherBound) :
    runs.NestedAgree (nested.after parsed) (other.after otherParsed) :=
  fun context place otherPlace _ _ places => agree context place otherPlace _ _ places

theorem NestedAgree.onwards
    (agree : runs.NestedAgree nested other)
    (parsed : Parsed α bound) (otherParsed : Parsed β otherBound) :
    runs.NestedAgree (nested.onwards parsed) (other.onwards otherParsed) :=
  fun context place otherPlace _ _ places => agree context place otherPlace _ _ places

end Nested

/-- Two readers of expressions that agree if the readers of what is nested do. -/
def ReadersAgree (runs : TwoRuns) (reader other : Reader) : Prop :=
  ∀ (place otherPlace : Cursor) (nested : Nested place.size)
    (otherNested : Nested otherPlace.size),
    runs.PlacesAgree place otherPlace → runs.NestedAgree nested otherNested →
      runs.ReadAlike (reader place nested) (other otherPlace otherNested)

/-! ## Constants and lists -/

theorem closedList_agree {α : Type} {bound otherBound : Nat}
    {item : (cursor : Cursor) → cursor.size ≤ bound → Outcome α cursor.size}
    {otherItem : (cursor : Cursor) → cursor.size ≤ otherBound → Outcome α cursor.size}
    (items : ∀ {place other : Cursor} (isWithin : place.size ≤ bound)
      (isOtherWithin : other.size ≤ otherBound), runs.PlacesAgree place other →
        runs.ReadAlike (item place isWithin) (otherItem other isOtherWithin))
    {place other : Cursor}
    (isWithin : place.size ≤ bound)
    (isOtherWithin : other.size ≤ otherBound)
    (places : runs.PlacesAgree place other) :
    runs.ReadAlike (closedList runs.first item place isWithin)
      (closedList runs.second otherItem other isOtherWithin) := by
  rw [closedList, closedList]
  refine (items isWithin isOtherWithin places).bind fun {first otherFirst} sameFirst => ?_
  have marks : runs.AcceptAlike Eq listMark? listMark? :=
    acceptAlike_of_content fun content => by rw [listMark?, listMark?, content]
  refine (take_expecting_agree sameFirst.places marks).bind
    fun {goesOn otherGoesOn} sameMark => ?_
  rw [sameMark.value]
  split
  · have isShorter := Nat.lt_trans goesOn.size_lt first.size_lt
    refine (closedList_agree items _ _ sameMark.places).bind fun sameOthers => ?_
    exact
      .before (.before
        (.ok ⟨congrArg₂ _ sameFirst.value sameOthers.value, sameOthers.places⟩))
  · exact .before (.ok ⟨congrArg ([·]) sameFirst.value, sameMark.places⟩)
termination_by place.size

theorem literal_agree {place other : Cursor} (places : runs.PlacesAgree place other) :
    runs.ReadAlike (literal runs.first place) (literal runs.second other) := by
  have starts : runs.AcceptAlike Eq literalStart? literalStart? :=
    acceptAlike_of_agrees fun agree => by
      rw [literalStart?, literalStart?, agree.content, agree.boolean?]
  have numbers :
      runs.AcceptAlike Eq (fun token => token.number?.bind Number.negate?)
        (fun token => token.number?.bind Number.negate?) :=
    acceptAlike_of_agrees fun agree => congrArg (·.bind Number.negate?) agree.number?
  unfold literal
  refine (take_expecting_agree places starts).bind fun {start otherStart} sameStart => ?_
  rw [sameStart.value]
  split
  · exact .ok ⟨rfl, sameStart.places⟩
  · refine (take_expecting_agree sameStart.places numbers).bind fun sameNumber => ?_
    exact .before (.ok ⟨congrArg _ sameNumber.value, sameNumber.places⟩)

theorem literalList_agree {place other : Cursor} (places : runs.PlacesAgree place other) :
    runs.ReadAlike (literalList runs.first place) (literalList runs.second other) := by
  unfold literalList
  refine (take_expecting_agree places (acceptAlike_exactly .leftParenthesis)).bind
    fun sameOpening => ?_
  exact .before (closedList_agree (fun _ _ => literal_agree) _ _ sameOpening.places)

/-! ## Operands -/

/-- What two corresponding tokens start in the place of an operand. -/
inductive OperandStartsAgree (runs : TwoRuns) : OperandStart → OperandStart → Prop where
  | whole (literal : Literal) :
      OperandStartsAgree runs (.whole literal) (.whole literal)
  | group {token other : Token}
      (twins : runs.Twins token other) :
      OperandStartsAgree runs (.group token) (.group other)
  | name (name : String) :
      OperandStartsAgree runs (.name name) (.name name)

theorem acceptAlike_operandStart? :
    runs.AcceptAlike runs.OperandStartsAgree operandStart? operandStart? := by
  intro token twin twins
  have agree := runs.agrees twins
  unfold operandStart?
  rw [agree.content, agree.boolean?, agree.name?]
  cases twin.content with
  | number value => exact .some (.whole _)
  | string value => exact .some (.whole _)
  | leftParenthesis => exact .some (.group twins)
  | _ =>
      cases twin.boolean? with
      | some value => exact .some (.whole _)
      | none =>
          cases twin.name? with
          | some name => exact .some (.name name)
          | none => exact .none

theorem argument_agree
    {place other : Cursor}
    {nested : Nested (place.size + 1)} {otherNested : Nested (other.size + 1)}
    (places : runs.PlacesAgree place other)
    (nestedAgree : runs.NestedAgree nested otherNested) :
    runs.ReadAlike (argument runs.first place nested)
      (argument runs.second other otherNested) := by
  unfold argument
  refine bind_takeIf?_agree places (acceptAlike_exactly _) ?_
    fun sameStar => .ok ⟨rfl, sameStar.places⟩
  refine (peek_agree places).bind fun {token twin} twins => ?_
  rw [(runs.agrees twins).content]
  cases twin.content with
  | comma => exact .error (.unexpected _ twins)
  | rightParenthesis => exact .error (.unexpected _ twins)
  | _ => exact nestedAgree _ _ _ _ _ places

theorem arguments_agree
    {place other : Cursor}
    {nested : Nested (place.size + 1)} {otherNested : Nested (other.size + 1)}
    (places : runs.PlacesAgree place other)
    (nestedAgree : runs.NestedAgree nested otherNested) :
    runs.ReadAlike (arguments runs.first place nested)
      (arguments runs.second other otherNested) := by
  unfold arguments
  refine bind_takeIf?_agree places (acceptAlike_exactly _) ?_
    fun sameClosing => .ok ⟨rfl, sameClosing.places⟩
  refine closedList_agree (fun _ _ itemPlaces => ?_) _ _ places
  exact
    argument_agree itemPlaces fun context inner otherInner _ _ =>
      nestedAgree context inner otherInner _ _

theorem primary_agree (context : Context) :
    runs.ReadersAgree (primary runs.first context) (primary runs.second context) := by
  intro place other nested otherNested places nestedAgree
  unfold primary
  refine (take_expecting_agree places acceptAlike_operandStart?).bind
    fun {start otherStart} sameStart => ?_
  obtain ⟨startsAgree, placesAfter⟩ := sameStart
  obtain ⟨value, startPlace, isShorter⟩ := start
  obtain ⟨otherValue, otherStartPlace, isOtherShorter⟩ := otherStart
  dsimp only at startsAgree placesAfter ⊢
  cases startsAgree with
  | whole literal => exact .ok ⟨rfl, placesAfter⟩
  | group twins =>
      refine (checkDepth_agree placesAfter twins).bind fun _ => ?_
      refine (nestedAgree _ _ _ _ _ placesAfter.deeper).bind fun sameInner => ?_
      refine (take_expecting_agree sameInner.places (acceptAlike_exactly _)).bind
        fun sameClosing => ?_
      exact .before (.before (.ok ⟨sameInner.value, sameClosing.places.shallower⟩))
  | name name =>
      refine bind_takeIf?_agree placesAfter (acceptAlike_exactly _)
        (.ok ⟨rfl, placesAfter⟩) fun {opening otherOpening} sameOpening => ?_
      refine (checkDepth_agree placesAfter sameOpening.value).bind fun _ => ?_
      have laterAgree :=
        nestedAgree.after ⟨OperandStart.name name, startPlace, isShorter⟩
          ⟨OperandStart.name name, otherStartPlace, isOtherShorter⟩
      refine
        (arguments_agree sameOpening.places.deeper
          (laterAgree.onwards opening otherOpening)).bind fun sameValues => ?_
      exact
        .before (.before
          (.ok ⟨congrArg _ sameValues.value, sameValues.places.shallower⟩))

theorem signed_agree
    (context : Context)
    {place other : Cursor}
    {nested : Nested place.size} {otherNested : Nested other.size}
    (places : runs.PlacesAgree place other)
    (nestedAgree : runs.NestedAgree nested otherNested) :
    runs.ReadAlike (signed runs.first context place nested)
      (signed runs.second context other otherNested) := by
  rw [signed, signed]
  refine bind_takeIf?_agree places (acceptAlike_exactly _)
    (primary_agree context _ _ _ _ places nestedAgree) fun {minus otherMinus} sameMinus => ?_
  refine (checkDepth_agree places sameMinus.value).bind fun _ => ?_
  have isShorter := minus.size_lt
  refine
    (signed_agree .value sameMinus.places.deeper
      (nestedAgree.after minus otherMinus)).bind fun sameOperand => ?_
  exact .before (.ok ⟨congrArg negated sameOperand.value, sameOperand.places.shallower⟩)
termination_by place.size

/-! ## Arithmetic -/

theorem arithmeticAfter_agree
    (least : Nat)
    (left : Expression)
    {place other : Cursor}
    {nested : Nested place.size} {otherNested : Nested other.size}
    (places : runs.PlacesAgree place other)
    (nestedAgree : runs.NestedAgree nested otherNested) :
    runs.ReadAlike (arithmeticAfter runs.first least left place nested)
      (arithmeticAfter runs.second least left other otherNested) := by
  have operators :
      runs.AcceptAlike Eq (operatorAtLeast? least) (operatorAtLeast? least) :=
    acceptAlike_of_content fun content => by rw [operatorAtLeast?, operatorAtLeast?, content]
  rw [arithmeticAfter, arithmeticAfter]
  refine bind_takeIf?_agree places operators (.ok ⟨rfl, places⟩)
    fun {operator otherOperator} sameOperator => ?_
  have laterAgree := nestedAgree.after operator otherOperator
  refine (signed_agree .value sameOperator.places laterAgree).bind
    fun {operand otherOperand} sameOperand => ?_
  have isOperandShorter := Nat.lt_trans operand.size_lt operator.size_lt
  have climbs :=
    arithmeticAfter_agree (operator.value.precedence + 1) operand.value sameOperand.places
      (laterAgree.after operand otherOperand)
  rw [← sameOperator.value, ← sameOperand.value]
  refine climbs.beforeRest.bind fun {right otherRight} sameRight => ?_
  have isRightShorter := Nat.lt_trans right.size_lt operator.size_lt
  rw [← sameRight.value]
  exact
    .relaxed (.before (.beforeRest
      (arithmeticAfter_agree least _ sameRight.places (laterAgree.after right otherRight))))
termination_by place.size

theorem arithmetic_agree (context : Context) :
    runs.ReadersAgree (arithmetic runs.first context) (arithmetic runs.second context) := by
  intro place other nested otherNested places nestedAgree
  unfold arithmetic
  refine (signed_agree context places nestedAgree).bind fun {first otherFirst} sameFirst => ?_
  rw [← sameFirst.value]
  exact
    .beforeRest
      (arithmeticAfter_agree 0 _ sameFirst.places (nestedAgree.after first otherFirst))

/-! ## Comparisons and tests -/

theorem checkCondition_agree {token twin : Token}
    (context : Context)
    (expression : Expression)
    (twins : runs.Twins token twin) :
    runs.Agree Eq (checkCondition context token expression)
      (checkCondition context twin expression) := by
  unfold checkCondition
  split
  · exact .ok rfl
  · exact .error (.condition expression twins)

theorem testedAttribute_agree {token twin : Token}
    (left : Expression)
    (test : Test)
    (twins : runs.Twins token twin) :
    runs.Agree Eq (testedAttribute token left test) (testedAttribute twin left test) := by
  unfold testedAttribute
  split
  · exact .ok rfl
  · exact .error (.unexpected _ twins)

theorem testBody_agree
    (name : String) (isNegated : Bool) (test : Test)
    {place other : Cursor}
    (places : runs.PlacesAgree place other) :
    runs.ReadAlike (testBody runs.first name isNegated test place)
      (testBody runs.second name isNegated test other) := by
  cases test with
  | membership =>
      refine (literalList_agree places).mapped fun sameValues => ?_
      rw [sameValues]
  | pattern =>
      have patterns : runs.AcceptAlike Eq Token.string? Token.string? :=
        acceptAlike_of_agrees fun agree => agree.string?
      refine (take_expecting_agree places patterns).mapped fun samePattern => ?_
      rw [samePattern]

theorem acceptAlike_test? : runs.AcceptAlike Eq test? test? :=
  acceptAlike_of_content fun content => by rw [test?, test?, content]

theorem testAfter_agree {token twin : Token}
    (left : Expression)
    {place other : Cursor}
    (twins : runs.Twins token twin)
    (places : runs.PlacesAgree place other) :
    runs.ReadAlike (testAfter runs.first token left place)
      (testAfter runs.second twin left other) := by
  unfold testAfter
  refine bind_takeIf?_agree places (acceptAlike_exactly _) ?_ fun sameWord => ?_
  · refine bind_takeIf?_agree places acceptAlike_test? (.ok ⟨rfl, places⟩)
      fun {test otherTest} sameTest => ?_
    dsimp only
    rw [← sameTest.value]
    refine (testedAttribute_agree left test.value twins).bind fun sameName => ?_
    rw [← sameName]
    exact .relaxed (.before (testBody_agree _ _ _ sameTest.places))
  · refine (take_expecting_agree sameWord.places acceptAlike_test?).bind
      fun {test otherTest} sameTest => ?_
    rw [← sameTest.value]
    refine (testedAttribute_agree left test.value twins).bind fun sameName => ?_
    rw [← sameName]
    exact .relaxed (.before (.before (testBody_agree _ _ _ sameTest.places)))

theorem comparison_agree (context : Context) :
    runs.ReadersAgree (comparison runs.first context) (comparison runs.second context) := by
  intro place other nested otherNested places nestedAgree
  have operators : runs.AcceptAlike Eq comparison? comparison? :=
    acceptAlike_of_content fun content => by rw [comparison?, comparison?, content]
  unfold comparison
  refine (peek_agree places).bind fun twins => ?_
  refine (arithmetic_agree context _ _ _ _ places nestedAgree).bind
    fun {left otherLeft} sameLeft => ?_
  rw [← sameLeft.value]
  refine bind_takeIf?_agree sameLeft.places operators
    (.beforeRest (testAfter_agree _ twins sameLeft.places))
    fun {operator otherOperator} sameOperator => ?_
  dsimp only
  rw [← sameOperator.value]
  refine
    (arithmetic_agree .value _ _ _ _ sameOperator.places
      ((nestedAgree.after left otherLeft).after operator otherOperator)).bind
      fun sameRight => ?_
  exact .before (.before (.ok ⟨congrArg _ sameRight.value, sameRight.places⟩))

/-! ## Negations and connectives -/

theorem negation_agree
    (context : Context)
    {place other : Cursor}
    {nested : Nested place.size} {otherNested : Nested other.size}
    (places : runs.PlacesAgree place other)
    (nestedAgree : runs.NestedAgree nested otherNested) :
    runs.ReadAlike (negation runs.first context place nested)
      (negation runs.second context other otherNested) := by
  rw [negation, negation]
  refine (peek_agree places).bind fun twins => ?_
  refine bind_takeIf?_agree places (acceptAlike_exactly _) ?_
    fun {word otherWord} sameWord => ?_
  · refine (comparison_agree context _ _ _ _ places nestedAgree).bind
      fun {result otherResult} sameResult => ?_
    split
    · rw [← sameResult.value]
      exact (checkCondition_agree context result.value twins).bind fun _ => .ok sameResult
    · exact .ok sameResult
  · refine (checkDepth_agree places sameWord.value).bind fun _ => ?_
    have isShorter := word.size_lt
    refine
      (negation_agree context.afterNot sameWord.places.deeper
        (nestedAgree.after word otherWord)).bind fun sameOperand => ?_
    exact .before (.ok ⟨congrArg _ sameOperand.value, sameOperand.places.shallower⟩)
termination_by place.size

theorem chainAfter_agree
    (connective : Connective) (context : Context)
    {operand otherOperand : Reader}
    (operands : runs.ReadersAgree operand otherOperand)
    {token twin : Token}
    (twins : runs.Twins token twin)
    (left : Expression)
    {place other : Cursor}
    {nested : Nested place.size} {otherNested : Nested other.size}
    (places : runs.PlacesAgree place other)
    (nestedAgree : runs.NestedAgree nested otherNested) :
    runs.ReadAlike (chainAfter runs.first connective context operand token left place nested)
      (chainAfter runs.second connective context otherOperand twin left other
        otherNested) := by
  rw [chainAfter, chainAfter]
  refine bind_takeIf?_agree places (acceptAlike_exactly _) (.ok ⟨rfl, places⟩)
    fun {word otherWord} sameWord => ?_
  refine (checkCondition_agree context left twins).bind fun _ => ?_
  refine (peek_agree sameWord.places).bind fun rightTwins => ?_
  have laterAgree := nestedAgree.after word otherWord
  refine (operands _ _ _ _ sameWord.places laterAgree).bind fun {right otherRight} sameRight => ?_
  rw [← sameRight.value]
  refine (checkCondition_agree context right.value rightTwins).bind fun _ => ?_
  have isShorter := Nat.lt_trans right.size_lt word.size_lt
  exact
    .relaxed (.before (.beforeRest
      (chainAfter_agree connective context operands twins _ sameRight.places
        (laterAgree.after right otherRight))))
termination_by place.size

theorem chain_agree
    (connective : Connective) (context : Context)
    {operand otherOperand : Reader}
    (operands : runs.ReadersAgree operand otherOperand) :
    runs.ReadersAgree (chain runs.first connective context operand)
      (chain runs.second connective context otherOperand) := by
  intro place other nested otherNested places nestedAgree
  unfold chain
  refine (peek_agree places).bind fun twins => ?_
  refine (operands _ _ _ _ places nestedAgree).bind fun {first otherFirst} sameFirst => ?_
  rw [← sameFirst.value]
  exact
    .beforeRest
      (chainAfter_agree connective context operands twins _ sameFirst.places
        (nestedAgree.after first otherFirst))

/-- The reader of expressions agrees with itself on corresponding tokens. -/
theorem expression_agree
    (context : Context)
    {place other : Cursor}
    (places : runs.PlacesAgree place other) :
    runs.ReadAlike (expression runs.first context place)
      (expression runs.second context other) := by
  rw [expression, expression]
  refine
    chain_agree .or context
      (chain_agree .and context fun _ _ _ _ places nestedAgree =>
        negation_agree context places nestedAgree)
      _ _ _ _ places ?_
  intro innerContext inner otherInner isLater _ innerPlaces
  exact expression_agree innerContext innerPlaces
termination_by place.size

end EventQuery.Grammar.TwoRuns
