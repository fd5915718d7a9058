import EventQuery.Proofs.Expression.Shape
import EventQuery.Proofs.Operator
import EventQuery.Query

/-!
# Well-formed queries

What every query satisfies that was read off a text, and what a query has to
satisfy so that its text is read as the query again.  Aliases, strings,
patterns and timestamps may be any text.
-/

namespace EventQuery

/-- An amount of something: positive, and no greater than a signed number can be. -/
def IsAmount (amount : UInt64) : Prop :=
  0 < amount.toNat ∧ (amount.toNat : Int) ≤ Int64.maxValue.toInt

/-- Whether an amount is no greater than a signed number can be; it may be zero. -/
def IsWritableAmount (amount : UInt64) : Prop :=
  (amount.toNat : Int) ≤ Int64.maxValue.toInt

/-- A point in time with an amount, if it has one. -/
def TimeSpec.IsWellFormed : TimeSpec → Prop
  | ago amount _ => IsAmount amount
  | _ => True

/-- A bucket size with an amount, if it has one. -/
def Bucketing.IsWellFormed : Bucketing → Prop
  | every amount _ => IsAmount amount
  | auto => True

/--
A column: a call, or an arithmetic operator with two operands, made of calls
and numbers by arithmetic, with a call somewhere.
-/
structure SelectItem.IsWellFormed (item : SelectItem) : Prop where
  isColumn :
    ∃ expression : Expression,
      expression.CallArithmetic true ∧
        expression.Computes item.function item.arguments ∧
        expression.IsWellFormed

namespace SelectItem

theorem operator?_of_symbol
    (operator : Arithmetic) (left right : Expression) (aliasName : Option String) :
    SelectItem.operator? ⟨operator.symbol, [left, right], aliasName⟩ = some operator := by
  have isSymbol := (@BinaryOperator.ofSymbol?_eq_arithmetic_iff _ operator).mpr rfl
  simp only [operator?, isSymbol]

theorem operator?_eq_none {item : SelectItem}
    (isNoOperator : ∀ operator : Arithmetic, item.function ≠ operator.symbol) :
    item.operator? = none := by
  unfold operator?
  split
  · rename_i operator _ _ isSymbol _
    exact absurd (BinaryOperator.ofSymbol?_eq_arithmetic_iff.mp isSymbol) (isNoOperator operator)
  · rfl

/-- The expression that a column stands for. -/
def expression (item : SelectItem) : Expression :=
  match item.operator?, item.arguments with
  | some operator, [left, right] => .binary (.arithmetic operator) left right
  | _, arguments => .call item.function arguments

/-- A column that an expression computes stands for that expression. -/
theorem expression_eq_of_computes
    {item : SelectItem} {expression : Expression} {hasCall : Bool}
    (arithmetic : expression.CallArithmetic hasCall)
    (computes : expression.Computes item.function item.arguments) :
    item.expression = expression := by
  obtain ⟨function, arguments, aliasName⟩ := item
  unfold SelectItem.expression
  rcases computes.isCall_or_isOperator with rfl | ⟨operator, left, right, rfl, rfl, rfl⟩
  · cases arithmetic with
    | call isNoOperator => rw [operator?_eq_none isNoOperator]
  · rw [operator?_of_symbol]

/-- A column has the numbers of the expression that it stands for. -/
theorem numbers_expression (item : SelectItem) :
    item.expression.numbers = Expression.listNumbers item.arguments := by
  unfold expression
  split
  · rename_i operator left right _ isPair
    simp [isPair, Expression.numbers, Expression.listNumbers]
  · rfl

/-- All names in a column: the one of its function, and those of its arguments. -/
def names (item : SelectItem) : List String :=
  item.function :: Expression.listNames item.arguments

/-- A column of a query has names only; the symbols of operators are names as well. -/
theorem IsWellFormed.areNames {item : SelectItem} (isWellFormed : item.IsWellFormed) :
    ∀ name ∈ item.names, IsName name := by
  obtain ⟨expression, _, computes, inner⟩ := isWellFormed
  have areNames := inner.areNames
  unfold names
  rcases computes.isCall_or_isOperator with rfl | ⟨operator, left, right, rfl, isSymbol, isPair⟩
  · exact areNames
  · rw [isSymbol, isPair]
    refine List.forall_mem_cons.mpr ⟨by cases operator <;> exact ⟨by decide, by decide⟩, ?_⟩
    simpa [Expression.listNames, Expression.names] using areNames

theorem mem_names_of_mem_expression {item : SelectItem} {name : String}
    (isIn : name ∈ item.expression.names) :
    name ∈ item.names := by
  unfold expression at isIn
  split at isIn
  · rename_i operator left right _ isPair
    simp only [Expression.names, List.mem_append] at isIn
    simp [names, isPair, Expression.listNames, isIn]
  · exact isIn

end SelectItem

/-- All numbers in a query. -/
def Query.numbers (query : Query) : List Number :=
  query.select.flatMap (fun item => Expression.listNumbers item.arguments) ++
    query.condition.toList.flatMap Expression.numbers

/-- All names in a query: of functions, attributes and types of events. -/
def Query.names (query : Query) : List String :=
  query.select.flatMap SelectItem.names ++ query.sources ++
    query.condition.toList.flatMap Expression.names ++ query.facet.toList.flatMap id

/-- The amount in a point in time, if it has one. -/
def TimeSpec.amounts : TimeSpec → List UInt64
  | ago amount _ => [amount]
  | _ => []

/-- The amount in a bucket size, if it has one. -/
def Bucketing.amounts : Bucketing → List UInt64
  | every amount _ => [amount]
  | auto => []

/-- All amounts in a query: the limit, and those of times. -/
def Query.amounts (query : Query) : List UInt64 :=
  query.limit.toList ++ query.since.toList.flatMap TimeSpec.amounts ++
    query.upTo.toList.flatMap TimeSpec.amounts ++
    query.compareWith.toList.flatMap TimeSpec.amounts ++
    query.timeseries.toList.flatMap Bucketing.amounts

/-- A query with the shape that the grammar gives to queries. -/
structure Query.IsWellFormed (query : Query) : Prop where
  selects : query.select ≠ []
  columns : ∀ item ∈ query.select, item.IsWellFormed
  hasSources : query.sources ≠ []
  sources : ∀ name ∈ query.sources, IsName name
  condition :
    ∀ expression ∈ query.condition,
      expression.IsWellFormed ∧ expression.isCondition = true ∧
        expression.joinsConditions = true
  facet : ∀ names ∈ query.facet, names ≠ [] ∧ ∀ name ∈ names, IsName name
  limit : ∀ amount ∈ query.limit, IsAmount amount
  since : ∀ spec ∈ query.since, spec.IsWellFormed
  upTo : ∀ spec ∈ query.upTo, spec.IsWellFormed
  compareWith : ∀ spec ∈ query.compareWith, spec.IsWellFormed
  timeseries : ∀ bucket ∈ query.timeseries, bucket.IsWellFormed
  /-- The least whole number has no opposite, so no sign and number make it. -/
  numbers : ∀ number ∈ query.numbers, number ≠ .integer Int64.minValue

theorem TimeSpec.IsWellFormed.areWritable {spec : TimeSpec} (isWellFormed : spec.IsWellFormed) :
    ∀ amount ∈ spec.amounts, IsWritableAmount amount := by
  cases spec with
  | ago amount unit => exact List.forall_mem_singleton.mpr isWellFormed.2
  | _ => exact List.forall_mem_nil _

theorem Bucketing.IsWellFormed.areWritable {bucketing : Bucketing}
    (isWellFormed : bucketing.IsWellFormed) :
    ∀ amount ∈ bucketing.amounts, IsWritableAmount amount := by
  cases bucketing with
  | every amount unit => exact List.forall_mem_singleton.mpr isWellFormed.2
  | auto => exact List.forall_mem_nil _

namespace Query.IsWellFormed

variable {query : Query}

theorem areNames (isWellFormed : query.IsWellFormed) :
    ∀ name ∈ query.names, IsName name := by
  simp only [names, List.forall_mem_append, List.forall_mem_flatMap, Option.mem_toList]
  exact
    ⟨⟨⟨fun item isItem => (isWellFormed.columns item isItem).areNames, isWellFormed.sources⟩,
        fun expression isIn => (isWellFormed.condition expression isIn).1.areNames⟩,
      fun names isIn => (isWellFormed.facet names isIn).2⟩

theorem areWritable (isWellFormed : query.IsWellFormed) :
    ∀ amount ∈ query.amounts, IsWritableAmount amount := by
  simp only [amounts, List.forall_mem_append, List.forall_mem_flatMap, Option.mem_toList]
  exact
    ⟨⟨⟨⟨fun amount isIn => (isWellFormed.limit amount isIn).2,
            fun spec isIn => (isWellFormed.since spec isIn).areWritable⟩,
          fun spec isIn => (isWellFormed.upTo spec isIn).areWritable⟩,
        fun spec isIn => (isWellFormed.compareWith spec isIn).areWritable⟩,
      fun bucketing isIn => (isWellFormed.timeseries bucketing isIn).areWritable⟩

end Query.IsWellFormed

end EventQuery
