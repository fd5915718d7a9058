import EventQuery.Grammar.Cursor

/-!
# Operands and arithmetic

The tight half of the expression grammar: constants, attributes, calls, groups,
the prefix minus and the four arithmetic operators.  What may stand in a group
or an argument is a whole expression again; the readers here take the reader
of expressions as a parameter, for places strictly later than their own.
-/

namespace EventQuery.Grammar

/-- Where an expression stands. -/
inductive Context where
  /-- Where any value may stand. -/
  | value
  /-- Where a condition has to stand, with conditions as its parts. -/
  | condition
  /--
  In a group inside a condition.  It may turn out to be a value that is
  compared with another one, but its connectives and negations join conditions.
  -/
  | group
deriving DecidableEq

namespace Context

/-- The context inside a group. -/
def inGroup : Context → Context
  | value => value
  | _ => group

/-- The context after NOT. -/
def afterNot : Context → Context
  | value => value
  | _ => condition

end Context

/-- A reader of nested expressions for places with fewer than `bound` tokens ahead. -/
abbrev Nested (bound : Nat) :=
  Context → (cursor : Cursor) → cursor.size < bound → Outcome Expression cursor.size

namespace Nested

/-- The same reader for places strictly after a given one. -/
def after {α : Type} {bound : Nat}
    (nested : Nested bound)
    (parsed : Parsed α bound) :
    Nested parsed.cursor.size :=
  fun context cursor isLater =>
    nested context cursor (Nat.lt_trans isLater parsed.size_lt)

/-- The same reader for a given place and the places after it. -/
def onwards {α : Type} {bound : Nat}
    (nested : Nested bound)
    (parsed : Parsed α bound) :
    Nested (parsed.cursor.size + 1) :=
  fun context cursor isLater =>
    nested context cursor (Nat.lt_of_lt_of_le isLater parsed.size_lt)

end Nested

/-- A reader of expressions that reads what is nested in them by a given reader. -/
abbrev Reader :=
  (cursor : Cursor) → Nested cursor.size → Outcome Expression cursor.size

variable (setting : Setting)

/-- How a list of literals or arguments goes on after an item. -/
def listMark? (token : Token) : Option Bool :=
  match token.content with
  | .comma => some true
  | .rightParenthesis => some false
  | _ => none

/-- One or more items with commas between them, through the closing parenthesis. -/
def closedList {α : Type} {bound : Nat}
    (item :
      (cursor : Cursor) → cursor.size ≤ bound → Outcome α cursor.size)
    (cursor : Cursor)
    (isWithin : cursor.size ≤ bound) :
    Outcome (List α) cursor.size := do
  let first ← item cursor isWithin
  let goesOn ←
    take setting first.cursor (expecting [.comma, .rightParenthesis]) listMark?
  if goesOn.value then
    let others ←
      closedList item goesOn.cursor
        (Nat.le_trans (Nat.le_of_lt (Nat.lt_trans goesOn.size_lt first.size_lt)) isWithin)
    first.before (goesOn.before (pure (others.map (first.value :: ·))))
  else
    first.before (pure (goesOn.map fun _ => [first.value]))
termination_by cursor.size
decreasing_by
  exact Nat.lt_trans goesOn.size_lt first.size_lt

/-- The start of a literal: a whole one, or the sign of a number. -/
inductive LiteralStart where
  | whole (literal : Literal)
  | minus

/-- The literal that a token is or starts. -/
def literalStart? (token : Token) : Option LiteralStart :=
  match token.content with
  | .string value => some (.whole (.string value))
  | .number value => some (.whole (.number value))
  | .arithmetic .subtract => some .minus
  | _ => token.boolean?.map fun value => .whole (.boolean value)

/-- A literal; a minus sign belongs to the number after it. -/
def literal (cursor : Cursor) : Outcome Literal cursor.size := do
  let start ← take setting cursor (expecting [.literal]) literalStart?
  match start.value with
  | .whole value => pure (start.map fun _ => value)
  | .minus =>
      let number ←
        take setting start.cursor (expecting [.number])
          fun token => token.number?.bind Number.negate?
      start.before (pure (number.map Literal.number))

/-- The literals in parentheses after IN. -/
def literalList (cursor : Cursor) : Outcome (List Literal) cursor.size := do
  let opening ←
    take setting cursor (expecting [.leftParenthesis]) (exactly .leftParenthesis)
  opening.before
    (closedList setting (fun place _ => literal setting place)
      opening.cursor (Nat.le_refl _))

/-- What a token may start in the place of an operand. -/
inductive OperandStart where
  | whole (literal : Literal)
  /-- An opening parenthesis. -/
  | group (token : Token)
  /-- An attribute or the function of a call. -/
  | name (name : String)

/-- The operand that a token is or starts. -/
def operandStart? (token : Token) : Option OperandStart :=
  match token.content with
  | .number value => some (.whole (.number value))
  | .string value => some (.whole (.string value))
  | .leftParenthesis => some (.group token)
  | _ =>
      match token.boolean? with
      | some value => some (.whole (.boolean value))
      | none => token.name?.map .name

/-- An argument of a call: the star alone, or any expression. -/
def argument
    (cursor : Cursor)
    (nested : Nested (cursor.size + 1)) :
    Outcome Expression cursor.size := do
  match ← takeIf? setting cursor (exactly (.arithmetic .multiply)) with
  | some star => pure (star.map fun _ => .wildcard)
  | none =>
      let token ← peek setting cursor
      match token.content with
      | .comma => throw (.unexpected token [.argument])
      | .rightParenthesis => throw (.unexpected token [.argument])
      | _ => nested .value cursor cursor.size_lt_succ

/-- The arguments of a call after its opening parenthesis, through the closing one. -/
def arguments
    (cursor : Cursor)
    (nested : Nested (cursor.size + 1)) :
    Outcome (List Expression) cursor.size := do
  match ← takeIf? setting cursor (exactly .rightParenthesis) with
  | some closing => pure (closing.map fun _ => [])
  | none =>
      closedList setting
        (fun place isWithin =>
          argument setting place fun context inner isLater =>
            nested context inner
              (Nat.lt_of_lt_of_le isLater (Nat.succ_le_succ isWithin)))
        cursor (Nat.le_refl _)

/-- A constant, an attribute, a call or a group. -/
def primary
    (context : Context)
    (cursor : Cursor)
    (nested : Nested cursor.size) :
    Outcome Expression cursor.size := do
  let start ← take setting cursor (expecting [.expression]) operandStart?
  match start.value with
  | .whole value => pure (start.map fun _ => .literal value)
  | .group token =>
      checkDepth setting start.cursor token
      let inner ← nested context.inGroup start.cursor.deeper start.size_lt
      let closing ←
        take setting inner.cursor (expecting [.rightParenthesis])
          (exactly .rightParenthesis)
      start.before
        (inner.before (pure (closing.map fun _ => inner.value).shallower))
  | .name name =>
      match ← takeIf? setting start.cursor (exactly .leftParenthesis) with
      | none => pure (start.map fun _ => .field name)
      | some opening =>
          checkDepth setting start.cursor opening.value
          let values ←
            arguments setting opening.cursor.deeper
              ((nested.after start).onwards opening)
          start.before
            (opening.before (pure (values.map (Expression.call name)).shallower))

/-- A minus sign in front of an operand; a number takes it into itself. -/
def negated (operand : Expression) : Expression :=
  match operand with
  | .literal (.number value) =>
      match value.negate? with
      | some opposite => .literal (.number opposite)
      | none => .unary .negate operand
  | _ => .unary .negate operand

/-- An operand with any number of minus signs in front. -/
def signed
    (context : Context)
    (cursor : Cursor)
    (nested : Nested cursor.size) :
    Outcome Expression cursor.size := do
  match ← takeIf? setting cursor (exactly (.arithmetic .subtract)) with
  | none => primary setting context cursor nested
  | some minus =>
      checkDepth setting cursor minus.value
      let operand ← signed .value minus.cursor.deeper (nested.after minus)
      minus.before (pure (operand.map negated).shallower)
termination_by cursor.size
decreasing_by
  exact minus.size_lt

/-- The arithmetic operator that a token is, if it binds tightly enough. -/
def operatorAtLeast? (least : Nat) (token : Token) : Option Arithmetic :=
  match token.content with
  | .arithmetic operator =>
      if least ≤ operator.precedence then some operator else none
  | _ => none

/--
Goes on after a left operand while operators of at least the given precedence
follow.  The right operand of each takes all operators that bind tighter.
-/
def arithmeticAfter
    (least : Nat)
    (left : Expression)
    (cursor : Cursor)
    (nested : Nested cursor.size) :
    Outcome Expression (cursor.size + 1) := do
  match ← takeIf? setting cursor (operatorAtLeast? least) with
  | none => pure (.unread left cursor)
  | some operator =>
      let later := nested.after operator
      let operand ← signed setting .value operator.cursor later
      let right ←
        operand.beforeRest
          (arithmeticAfter (operator.value.precedence + 1)
            operand.value operand.cursor (later.after operand))
      (operator.before
        (right.beforeRest
          (arithmeticAfter least
            (.binary (.arithmetic operator.value) left right.value)
            right.cursor (later.after right)))).relaxed
termination_by cursor.size
decreasing_by
  · exact Nat.lt_trans operand.size_lt operator.size_lt
  · exact Nat.lt_trans right.size_lt operator.size_lt

/--
An arithmetic expression.  The context concerns a group at its very start;
every other operand is a plain value.
-/
def arithmetic
    (context : Context)
    (cursor : Cursor)
    (nested : Nested cursor.size) :
    Outcome Expression cursor.size := do
  let first ← signed setting context cursor nested
  first.beforeRest
    (arithmeticAfter setting 0 first.value first.cursor (nested.after first))

end EventQuery.Grammar
