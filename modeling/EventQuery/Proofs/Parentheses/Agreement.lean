import EventQuery.Proofs.Parentheses.Scale

/-!
# Queries that agree weigh the same

Equal queries may have different zeros.  A sign of a number is no operator, so zeros
make no difference to what a query weighs, nor to where its text has parentheses.
-/

namespace EventQuery

/-! ## Expressions -/

namespace Expression

theorem shape_eq_of_agrees {first second : Expression} (agrees : first.agrees second = true) :
    first.precedence = second.precedence ∧ first.isOpposite = second.isOpposite := by
  fun_cases Expression.agrees first second
  case case5 operator left right operator' left' right' =>
    simp only [Expression.agrees, Bool.and_eq_true, beq_iff_eq] at agrees
    obtain ⟨⟨rfl, _⟩, _⟩ := agrees
    exact ⟨rfl, rfl⟩
  case case6 operator operand operator' operand' =>
    simp only [Expression.agrees, Bool.and_eq_true, beq_iff_eq] at agrees
    obtain ⟨rfl, _⟩ := agrees
    cases operator <;> exact ⟨rfl, rfl⟩
  case case9 => simp_all [Expression.agrees]
  all_goals exact ⟨rfl, rfl⟩

theorem weight_eq_of_agrees (scale : Scale) {first second : Expression} :
    first.agrees second = true → scale.expression first = scale.expression second := by
  refine
    Expression.agrees.induct
      (fun first second =>
        first.agrees second = true → scale.expression first = scale.expression second)
      (fun firsts seconds =>
        listAgrees firsts seconds = true → scale.expressions firsts = scale.expressions seconds)
      ?literal ?field ?wildcard ?call ?binary ?unary ?member ?matching ?other ?nil ?cons ?unequal
      first second
  case literal => exact fun _ _ _ => rfl
  case field =>
    intro name name' agrees
    obtain rfl : name = name' := eq_of_beq agrees
    rfl
  case wildcard => exact fun _ => rfl
  case call =>
    intro function arguments function' arguments' ih agrees
    obtain ⟨same, argumentsAgree⟩ := Bool.and_eq_true_iff.mp agrees
    obtain rfl := eq_of_beq same
    rw [Scale.expression, Scale.expression, ih argumentsAgree]
  case binary =>
    intro operator left right operator' left' right' leftIh rightIh agrees
    simp only [Expression.agrees, Bool.and_eq_true, beq_iff_eq] at agrees
    obtain ⟨⟨rfl, leftAgrees⟩, rightAgrees⟩ := agrees
    rw [Scale.expression, Scale.expression, leftIh leftAgrees, rightIh rightAgrees,
      (shape_eq_of_agrees leftAgrees).1, (shape_eq_of_agrees rightAgrees).1]
  case unary =>
    intro operator operand operator' operand' ih agrees
    simp only [Expression.agrees, Bool.and_eq_true, beq_iff_eq] at agrees
    obtain ⟨rfl, operandAgrees⟩ := agrees
    obtain ⟨samePrecedence, sameOpposite⟩ := shape_eq_of_agrees operandAgrees
    cases operator with
    | not => rw [Scale.expression, Scale.expression, ih operandAgrees, samePrecedence]
    | negate =>
        rw [Scale.expression, Scale.expression, ih operandAgrees, samePrecedence, sameOpposite]
  case member =>
    intro name values negated name' values' negated' agrees
    simp only [Expression.agrees, Bool.and_eq_true, beq_iff_eq] at agrees
    rw [Scale.expression, Scale.expression, agrees.1.1]
  case matching =>
    intro name pattern negated name' pattern' negated' agrees
    simp only [Expression.agrees, Bool.and_eq_true, beq_iff_eq] at agrees
    rw [Scale.expression, Scale.expression, agrees.1.1]
  case other =>
    intro first second _ _ _ _ _ _ _ _ agrees
    simp_all [Expression.agrees]
  case nil => exact fun _ => rfl
  case cons =>
    intro first firsts second seconds ih others agrees
    obtain ⟨firstAgrees, othersAgree⟩ := Bool.and_eq_true_iff.mp agrees
    rw [Scale.expressions, Scale.expressions, ih firstAgrees, others othersAgree]
  case unequal =>
    intro firsts seconds _ _ agrees
    simp_all [Expression.listAgrees]

end Expression

/-! ## Columns and queries -/

theorem Expression.CallArithmetic.ne_symbol {hasCall : Bool} {function : String}
    {arguments : List Expression}
    (arithmetic : CallArithmetic hasCall (.call function arguments))
    (operator : Arithmetic) :
    function ≠ operator.symbol := by
  cases arithmetic with
  | call isNoOperator => exact isNoOperator operator

theorem SelectItem.expression_agrees {first second : SelectItem}
    (isWellFormed : first.IsWellFormed)
    (agrees : first.agrees second = true) :
    first.expression.agrees second.expression = true := by
  obtain ⟨expression, arithmetic, computes, _⟩ := isWellFormed
  obtain ⟨function, arguments, aliasName⟩ := first
  obtain ⟨function', arguments', aliasName'⟩ := second
  simp only [SelectItem.agrees, Bool.and_eq_true, beq_iff_eq] at agrees
  obtain ⟨⟨rfl, argumentsAgree⟩, _⟩ := agrees
  unfold SelectItem.expression
  rcases computes.isCall_or_isOperator with rfl | ⟨operator, left, right, _, rfl, rfl⟩
  · have isNone (arguments : List Expression) (aliasName : Option String) :
        operator? ⟨function, arguments, aliasName⟩ = none :=
      operator?_eq_none arithmetic.ne_symbol
    rw [isNone, isNone]
    exact Bool.and_eq_true_iff.mpr ⟨beq_self_eq_true _, argumentsAgree⟩
  · rcases arguments' with _ | ⟨left', _ | ⟨right', _ | _⟩⟩
    case cons.cons.nil =>
      rw [operator?_of_symbol, operator?_of_symbol]
      simpa [Expression.agrees, Expression.listAgrees] using argumentsAgree
    all_goals simp [Expression.listAgrees] at argumentsAgree

namespace Scale

variable (scale : Scale)

theorem columns_eq_of_agrees {firsts seconds : List SelectItem}
    (areWellFormed : ∀ item ∈ firsts, item.IsWellFormed)
    (agrees : Query.selectAgrees firsts seconds = true) :
    scale.expressions (firsts.map SelectItem.expression) =
      scale.expressions (seconds.map SelectItem.expression) := by
  fun_induction Query.selectAgrees firsts seconds with
  | case1 => rfl
  | case2 first firsts second seconds ih =>
      obtain ⟨isWellFormed, othersAreWellFormed⟩ := List.forall_mem_cons.mp areWellFormed
      obtain ⟨firstAgrees, othersAgree⟩ := Bool.and_eq_true_iff.mp agrees
      have sameColumn :=
        Expression.weight_eq_of_agrees scale
          (SelectItem.expression_agrees isWellFormed firstAgrees)
      rw [List.map_cons, List.map_cons, expressions, expressions, sameColumn,
        ih othersAreWellFormed othersAgree]
  | case3 => cases agrees

theorem condition_eq_of_agrees {first second : Option Expression}
    (agrees : Query.conditionAgrees first second = true) :
    scale.expressions first.toList = scale.expressions second.toList := by
  fun_cases Query.conditionAgrees first second
  · rfl
  · exact congrArg (· + 0) (Expression.weight_eq_of_agrees scale agrees)
  · simp_all [Query.conditionAgrees]

/-- A well-formed query weighs what every query weighs that agrees with it. -/
theorem query_eq_of_agrees {first second : Query}
    (isWellFormed : first.IsWellFormed)
    (agrees : first.agrees second = true) :
    scale.query first = scale.query second := by
  simp only [Query.agrees, Bool.and_eq_true, beq_iff_eq] at agrees
  obtain ⟨⟨⟨⟨⟨⟨⟨⟨columns, sources⟩, condition⟩, facet⟩, _⟩, _⟩, _⟩, _⟩, _⟩ := agrees
  rw [query, query, sources, facet, scale.columns_eq_of_agrees isWellFormed.columns columns,
    scale.condition_eq_of_agrees condition]

end Scale

end EventQuery
