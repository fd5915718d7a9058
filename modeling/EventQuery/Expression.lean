import EventQuery.Number
import EventQuery.Operator

/-!
# Expressions

The trees of conditions, arguments and computed columns.  Parentheses leave no
trace in a tree; they only decide its shape.
-/

namespace EventQuery

/-- A constant. -/
inductive Literal where
  | number (value : Number)
  | string (value : String)
  | boolean (value : Bool)
deriving DecidableEq

/-- An expression of a condition, an argument or a computed column. -/
inductive Expression where
  /-- A constant. -/
  | literal (value : Literal)
  /-- The value of an attribute of an event. -/
  | field (name : String)
  /-- The star that stands for a whole event, as in `count(*)`. -/
  | wildcard
  /-- A function applied to arguments. -/
  | call (function : String) (arguments : List Expression)
  /-- An operator between two operands. -/
  | binary (operator : BinaryOperator) (left right : Expression)
  /-- An operator in front of its operand. -/
  | unary (operator : UnaryOperator) (operand : Expression)
  /-- Whether an attribute is, or is not, one of some constants. -/
  | member (name : String) (values : List Literal) (negated : Bool)
  /-- Whether an attribute matches, or does not match, a pattern. -/
  | matching (name : String) (pattern : String) (negated : Bool)

namespace Literal

/-- Equality of constants, where the two zeros of binary64 are equal. -/
def agrees : Literal → Literal → Bool
  | number first, number second => first.agrees second
  | string first, string second => first == second
  | boolean first, boolean second => first == second
  | _, _ => false

/-- Equality of lists of constants, item by item. -/
def listAgrees : List Literal → List Literal → Bool
  | [], [] => true
  | first :: firsts, second :: seconds =>
      first.agrees second && listAgrees firsts seconds
  | _, _ => false

end Literal

namespace Expression

/--
Whether an expression has the shape of a condition.  Comparisons, membership
and pattern tests are conditions, and so are negations and connections of
conditions.  Attributes and calls may hold truth values, so they count too;
constants, the star and arithmetic do not.
-/
def isCondition : Expression → Bool
  | literal _ => false
  | wildcard => false
  | field _ => true
  | call _ _ => true
  | member _ _ _ => true
  | matching _ _ _ => true
  | unary .not operand => operand.isCondition
  | unary .negate _ => false
  | binary (.logical _) left right => left.isCondition && right.isCondition
  | binary (.comparison _) _ _ => true
  | binary (.arithmetic _) _ _ => false

mutual

/-- Equality of expressions, where the two zeros of binary64 are equal. -/
def agrees : Expression → Expression → Bool
  | literal first, literal second => first.agrees second
  | field first, field second => first == second
  | wildcard, wildcard => true
  | call function arguments, call function' arguments' =>
      function == function' && listAgrees arguments arguments'
  | binary operator left right, binary operator' left' right' =>
      operator == operator' && left.agrees left' && right.agrees right'
  | unary operator operand, unary operator' operand' =>
      operator == operator' && operand.agrees operand'
  | member name values negated, member name' values' negated' =>
      name == name' && Literal.listAgrees values values' &&
        negated == negated'
  | matching name pattern negated, matching name' pattern' negated' =>
      name == name' && pattern == pattern' && negated == negated'
  | _, _ => false

/-- Equality of lists of expressions, item by item. -/
def listAgrees : List Expression → List Expression → Bool
  | [], [] => true
  | first :: firsts, second :: seconds =>
      first.agrees second && listAgrees firsts seconds
  | _, _ => false

end

end Expression

end EventQuery
