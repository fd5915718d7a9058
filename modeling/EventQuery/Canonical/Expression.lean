import EventQuery.Canonical.Piece
import EventQuery.Expression

/-!
# Canonical text of expressions

An operand stands in parentheses exactly where it binds looser than its place
demands: binary operators associate to the left, comparisons do not chain, and
a minus sign is never followed by another one.
-/

namespace EventQuery

/-- The pieces of a number. -/
def Number.pieces (number : Number) : List Piece :=
  match number with
  | integer value =>
      Piece.sign (value.toInt < 0) ++ [.whole value.toInt.natAbs]
  | float value =>
      Piece.sign value.negative ++ [.decimal value.rank]

/-- The text of a number as a literal of a query. -/
def Number.text (number : Number) : String :=
  Piece.textOf number.pieces

namespace Literal

/-- The pieces of a constant. -/
def pieces : Literal → List Piece
  | number value => value.pieces
  | string value => [.string value]
  | boolean value => [.boolean value]

/-- The canonical text of a constant. -/
def text (literal : Literal) : String :=
  Piece.textOf literal.pieces

end Literal

namespace BinaryOperator

/-- The piece of an operator between its operands. -/
def piece : BinaryOperator → Piece
  | logical .or => .keyword .orWord
  | logical .and => .keyword .andWord
  | comparison operator => .comparison operator
  | arithmetic operator => .arithmetic operator

/--
The least precedence that a left operand needs to stand without parentheses.
Operators associate to the left, except comparisons, which do not chain.
-/
def leftDemand (operator : BinaryOperator) : Nat :=
  if operator.isComparison then
    operator.precedence + 1
  else
    operator.precedence

/-- The least precedence that a right operand needs to stand without parentheses. -/
def rightDemand (operator : BinaryOperator) : Nat :=
  operator.precedence + 1

end BinaryOperator

/-- The precedence of a negated condition. -/
def negationPrecedence : Nat := 3

/-- The precedence of membership and pattern tests. -/
def testPrecedence : Nat := 4

/-- The precedence of everything that is never torn apart. -/
def atomPrecedence : Nat := 7

namespace Expression

/-- How tightly an expression binds when it stands without parentheses. -/
def precedence : Expression → Nat
  | binary operator _ _ => operator.precedence
  | unary .not _ => negationPrecedence
  | member _ _ _ => testPrecedence
  | matching _ _ _ => testPrecedence
  | _ => atomPrecedence

/-- Whether the text of an expression starts with a minus sign of its own. -/
def startsWithMinus : Expression → Bool
  | unary .negate _ => true
  | literal (.number value) => value.isNegative
  | _ => false

mutual

/-- The pieces of an expression. -/
def pieces : Expression → List Piece
  | literal value => value.pieces
  | field name => [.name name]
  | wildcard => [.arithmetic .multiply]
  | call function arguments =>
      .name function :: .leftParenthesis ::
        Piece.separated (listPieces arguments) ++ [.rightParenthesis]
  | binary operator left right =>
      Piece.enclosed (left.precedence < operator.leftDemand) left.pieces ++
        [.space, operator.piece, .space] ++
        Piece.enclosed (right.precedence < operator.rightDemand) right.pieces
  | unary .not operand =>
      .keyword .notWord :: .space ::
        Piece.enclosed (operand.precedence < negationPrecedence) operand.pieces
  | unary .negate operand =>
      -- Two minus signs in a row would start a comment.
      .arithmetic .subtract ::
        Piece.enclosed
          (operand.startsWithMinus || operand.precedence < atomPrecedence)
          operand.pieces
  | member name values negated =>
      .name name :: .space ::
        (if negated then [.keyword .notWord, .space] else []) ++
        [.keyword .inWord, .space, .leftParenthesis] ++
        Piece.separated (values.map Literal.pieces) ++ [.rightParenthesis]
  | matching name pattern negated =>
      .name name :: .space ::
        (if negated then [.keyword .notWord, .space] else []) ++
        [.keyword .likeWord, .space, .string pattern]

/-- The pieces of each of some expressions. -/
def listPieces : List Expression → List (List Piece)
  | [] => []
  | expression :: expressions => expression.pieces :: listPieces expressions

end

/-- The canonical text of an expression. -/
def text (expression : Expression) : String :=
  Piece.textOf expression.pieces

end Expression

end EventQuery
