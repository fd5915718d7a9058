import EventQuery.Text.Case

/-!
# Operators

Binary operators come in three families, which also are three bands of
precedence: connectives join conditions, comparisons make conditions out of
values, and arithmetic makes values out of values.
-/

namespace EventQuery

/-- Operators between two conditions. -/
inductive Connective where
  | or
  | and
deriving DecidableEq, Repr

/-- Operators that compare two values. -/
inductive Comparison where
  | equal
  | notEqual
  | less
  | lessOrEqual
  | greater
  | greaterOrEqual
deriving DecidableEq, Repr

/-- Operators that compute a value. -/
inductive Arithmetic where
  | add
  | subtract
  | multiply
  | divide
deriving DecidableEq, Repr

/-- Operators with two operands. -/
inductive BinaryOperator where
  | logical (operator : Connective)
  | comparison (operator : Comparison)
  | arithmetic (operator : Arithmetic)
deriving DecidableEq, Repr

/-- Operators in front of one operand. -/
inductive UnaryOperator where
  | not
  | negate
deriving DecidableEq, Repr

/-- The word of a connective. -/
def Connective.symbol : Connective → String
  | or => "OR"
  | and => "AND"

/-- The canonical symbol of a comparison. -/
def Comparison.symbol : Comparison → String
  | equal => "="
  | notEqual => "!="
  | less => "<"
  | lessOrEqual => "<="
  | greater => ">"
  | greaterOrEqual => ">="

/-- The symbol of an arithmetic operator. -/
def Arithmetic.symbol : Arithmetic → String
  | add => "+"
  | subtract => "-"
  | multiply => "*"
  | divide => "/"

/-- The precedence of an arithmetic operator. -/
def Arithmetic.precedence : Arithmetic → Nat
  | add => 5
  | subtract => 5
  | multiply => 6
  | divide => 6

/-- The symbol of a prefix operator. -/
def UnaryOperator.symbol : UnaryOperator → String
  | not => "NOT"
  | negate => "-"

namespace BinaryOperator

/-- All binary operators, loosest first. -/
def all : List BinaryOperator := [
  logical .or, logical .and,
  comparison .equal, comparison .notEqual,
  comparison .less, comparison .lessOrEqual,
  comparison .greater, comparison .greaterOrEqual,
  arithmetic .add, arithmetic .subtract,
  arithmetic .multiply, arithmetic .divide]

/-- The canonical symbol or word. -/
def symbol : BinaryOperator → String
  | logical operator => operator.symbol
  | comparison operator => operator.symbol
  | arithmetic operator => operator.symbol

/-- Binding strength: the operator with the greater number binds tighter. -/
def precedence : BinaryOperator → Nat
  | logical .or => 1
  | logical .and => 2
  | comparison _ => 4
  | arithmetic operator => operator.precedence

/-- Whether the operator joins conditions. -/
def isLogical : BinaryOperator → Bool
  | logical _ => true
  | _ => false

/-- Whether the operator compares values. -/
def isComparison : BinaryOperator → Bool
  | comparison _ => true
  | _ => false

/-- Whether the operator computes a value. -/
def isArithmetic : BinaryOperator → Bool
  | arithmetic _ => true
  | _ => false

/--
The operator of a canonical symbol.  The words of the connectives may be
written in either case.
-/
def ofSymbol? (text : String) : Option BinaryOperator :=
  all.find? fun operator => Text.agreeIgnoringCase operator.symbol text

end BinaryOperator

end EventQuery
