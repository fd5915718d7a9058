import EventQuery.Expression

/-!
# Shapes of expressions

The grammar restricts the trees that may stand in a condition or in a column.
Both restrictions are properties of the finished tree, since parentheses leave
no trace in it.  This module states them without any reader in mind, together
with what every tree of a query satisfies.
-/

namespace EventQuery

/-- What can be the name of something: a text with characters and without backticks. -/
def IsName (name : String) : Prop :=
  name ≠ "" ∧ '\x60' ∉ name.toList

namespace Expression

/--
Whether the connectives and negations in front of an expression join
conditions.  They are looked for below connectives and negations and below the
left operands of comparisons and arithmetic, which is where a condition may
open with a group; everything further right is a plain value.
-/
def joinsConditions : Expression → Bool
  | binary (.logical _) left right =>
      left.isCondition && right.isCondition &&
        left.joinsConditions && right.joinsConditions
  | binary (.comparison _) left _ => left.joinsConditions
  | binary (.arithmetic _) left _ => left.joinsConditions
  | unary .not operand => operand.isCondition && operand.joinsConditions
  | _ => true

/--
Arithmetic over calls and numbers, and whether there is a call in it.  No call
is named like an arithmetic operator.
-/
inductive CallArithmetic : Bool → Expression → Prop where
  | call {function : String} {arguments : List Expression}
      (isNoOperator : ∀ operator : Arithmetic, function ≠ operator.symbol) :
      CallArithmetic true (.call function arguments)
  | number {value : Number} :
      CallArithmetic false (.literal (.number value))
  | negate {hasCall : Bool} {operand : Expression}
      (inner : CallArithmetic hasCall operand) :
      CallArithmetic hasCall (.unary .negate operand)
  | arithmetic {operator : Arithmetic} {inLeft inRight : Bool}
      {left right : Expression}
      (leftInner : CallArithmetic inLeft left)
      (rightInner : CallArithmetic inRight right) :
      CallArithmetic (inLeft || inRight) (.binary (.arithmetic operator) left right)

/--
What a column made of the expression computes: the function that is called and
its arguments, or an arithmetic operator and its two operands.
-/
inductive Computes : Expression → String → List Expression → Prop where
  | call {function : String} {arguments : List Expression} :
      Computes (.call function arguments) function arguments
  | operator {operator : Arithmetic} {left right : Expression} :
      Computes (.binary (.arithmetic operator) left right)
        operator.symbol [left, right]

/--
A tree as it may stand in a query: what is named can be a name, lists of
constants are not empty, the star stands for itself as an argument and nowhere
else, and a minus sign in front of a number is part of the number.
-/
inductive IsWellFormed : Expression → Prop where
  | literal {value : Literal} : IsWellFormed (.literal value)
  | field {name : String}
      (isName : IsName name) :
      IsWellFormed (.field name)
  | call {function : String} {arguments : List Expression}
      (isName : IsName function)
      (inner : ∀ argument ∈ arguments, argument ≠ .wildcard → IsWellFormed argument) :
      IsWellFormed (.call function arguments)
  | binary {operator : BinaryOperator} {left right : Expression}
      (leftInner : IsWellFormed left)
      (rightInner : IsWellFormed right) :
      IsWellFormed (.binary operator left right)
  | not {operand : Expression}
      (inner : IsWellFormed operand) :
      IsWellFormed (.unary .not operand)
  | negate {operand : Expression}
      (inner : IsWellFormed operand)
      (isNoNumber : ∀ value : Number, operand ≠ .literal (.number value)) :
      IsWellFormed (.unary .negate operand)
  | member {name : String} {values : List Literal} {negated : Bool}
      (isName : IsName name)
      (isNonempty : values ≠ []) :
      IsWellFormed (.member name values negated)
  | matching {name pattern : String} {negated : Bool}
      (isName : IsName name) :
      IsWellFormed (.matching name pattern negated)

end Expression

theorem Expression.IsWellFormed.ne_wildcard {expression : Expression}
    (isWellFormed : expression.IsWellFormed) :
    expression ≠ .wildcard := by
  rintro rfl
  cases isWellFormed

theorem Expression.Computes.isCall_or_isOperator
    {expression : Expression} {function : String} {arguments : List Expression}
    (computes : expression.Computes function arguments) :
    expression = .call function arguments ∨
      ∃ (operator : Arithmetic) (left right : Expression),
        expression = .binary (.arithmetic operator) left right ∧
          function = operator.symbol ∧ arguments = [left, right] := by
  cases computes with
  | call => exact Or.inl rfl
  | operator => exact Or.inr ⟨_, _, _, rfl, rfl, rfl⟩

/-- The number that a constant is, if it is one. -/
def Literal.numbers : Literal → List Number
  | number value => [value]
  | _ => []

namespace Expression

mutual

/-- All numbers in an expression, from left to right. -/
def numbers : Expression → List Number
  | literal value => value.numbers
  | call _ arguments => listNumbers arguments
  | binary _ left right => left.numbers ++ right.numbers
  | unary _ operand => operand.numbers
  | member _ values _ => values.flatMap Literal.numbers
  | _ => []

/-- All numbers in a list of expressions, from left to right. -/
def listNumbers : List Expression → List Number
  | [] => []
  | first :: others => first.numbers ++ listNumbers others

end

theorem mem_listNumbers_iff {value : Number} {expressions : List Expression} :
    value ∈ listNumbers expressions ↔
      ∃ expression ∈ expressions, value ∈ expression.numbers := by
  induction expressions with
  | nil => simp [listNumbers]
  | cons first others ih => simp [listNumbers, ih]

mutual

/-- All names in an expression, from left to right: of attributes and of functions. -/
def names : Expression → List String
  | field name => [name]
  | call function arguments => function :: listNames arguments
  | binary _ left right => left.names ++ right.names
  | unary _ operand => operand.names
  | member name _ _ => [name]
  | matching name _ _ => [name]
  | _ => []

/-- All names in a list of expressions, from left to right. -/
def listNames : List Expression → List String
  | [] => []
  | first :: others => first.names ++ listNames others

end

theorem mem_listNames_iff {name : String} {expressions : List Expression} :
    name ∈ listNames expressions ↔
      ∃ expression ∈ expressions, name ∈ expression.names := by
  induction expressions with
  | nil => simp [listNames]
  | cons first others ih => simp [listNames, ih]

/-- What is named in a tree of a query can be a name. -/
theorem IsWellFormed.areNames {expression : Expression}
    (isWellFormed : expression.IsWellFormed) :
    ∀ name ∈ expression.names, IsName name := by
  induction isWellFormed with
  | literal => exact List.forall_mem_nil _
  | field isName => exact List.forall_mem_singleton.mpr isName
  | @call function arguments isName inner ih =>
      refine List.forall_mem_cons.mpr ⟨isName, fun name isIn => ?_⟩
      obtain ⟨argument, isArgument, isInside⟩ := mem_listNames_iff.mp isIn
      by_cases isStar : argument = .wildcard
      · rw [isStar] at isInside
        cases isInside
      · exact ih argument isArgument isStar name isInside
  | binary _ _ leftIh rightIh => exact List.forall_mem_append.mpr ⟨leftIh, rightIh⟩
  | not _ ih => exact ih
  | negate _ _ ih => exact ih
  | member isName => exact List.forall_mem_singleton.mpr isName
  | matching isName => exact List.forall_mem_singleton.mpr isName

/-- A column of an expression has the numbers of the expression. -/
theorem Computes.listNumbers_eq
    {expression : Expression} {function : String} {arguments : List Expression}
    (computes : expression.Computes function arguments) :
    listNumbers arguments = expression.numbers := by
  cases computes with
  | call => rfl
  | operator => simp [listNumbers, numbers]

end Expression

end EventQuery
