import EventQuery.Grammar.Operand

/-!
# Comparisons and connectives

The loose half of the expression grammar: comparisons and tests, which do not
chain, the prefix NOT, and the connectives AND and OR.  In a condition every
part that is negated or connected has to be a condition itself.

`expression` closes the circle: the expressions nested inside an operand are
read by the same reader, further on among the tokens.
-/

namespace EventQuery.Grammar

variable (setting : Setting)

/-- The error of an expression that would have to be a condition. -/
def notACondition (start : Token) (expression : Expression) : QueryError :=
  .parse start.position [.condition] (.operand expression)

/-- Refuses a part that is no condition, outside of plain values. -/
def checkCondition
    (context : Context)
    (start : Token)
    (expression : Expression) :
    Except QueryError Unit :=
  if context = .value ∨ expression.isCondition then
    pure ()
  else
    throw (notACondition start expression)

/-- The comparison that a token is. -/
def comparison? (token : Token) : Option Comparison :=
  match token.content with
  | .comparison operator => some operator
  | _ => none

/-- The two tests that a keyword may start. -/
inductive Test where
  | membership
  | pattern
deriving DecidableEq

/-- The test that a token starts. -/
def test? (token : Token) : Option Test :=
  match token.content with
  | .keyword .inWord => some .membership
  | .keyword .likeWord => some .pattern
  | _ => none

/-- The keyword of a test. -/
def Test.keyword : Test → Keyword
  | membership => .inWord
  | pattern => .likeWord

/-- The attribute in front of a test, which has to stand alone. -/
def testedAttribute
    (start : Token)
    (left : Expression)
    (test : Test) :
    Except QueryError String :=
  match left with
  | .field name => pure name
  | _ => throw (.unexpected start [.attributeBefore test.keyword])

/-- The rest of a test after its keyword. -/
def testBody
    (name : String)
    (isNegated : Bool)
    (test : Test)
    (cursor : Cursor) :
    Outcome Expression cursor.size := do
  match test with
  | .membership =>
      let values ← literalList setting cursor
      pure (values.map fun values => .member name values isNegated)
  | .pattern =>
      let pattern ←
        take setting cursor (expecting [.stringPattern]) Token.string?
      pure (pattern.map fun pattern => .matching name pattern isNegated)

/--
What may follow a value: a test, perhaps negated, or nothing.  After a NOT
there has to be a test.
-/
def testAfter
    (start : Token)
    (left : Expression)
    (cursor : Cursor) :
    Outcome Expression (cursor.size + 1) := do
  match ← takeIf? setting cursor (exactly (.keyword .notWord)) with
  | none =>
      match ← takeIf? setting cursor test? with
      | none => pure (.unread left cursor)
      | some test =>
          let name ← testedAttribute start left test.value
          (test.before (testBody setting name false test.value test.cursor)).relaxed
  | some word =>
      let test ←
        take setting word.cursor
          (expecting [.keyword .inWord, .keyword .likeWord]) test?
      let name ← testedAttribute start left test.value
      (word.before
        (test.before (testBody setting name true test.value test.cursor))).relaxed

/-- A value, or a comparison of two values, or a test of an attribute. -/
def comparison
    (context : Context)
    (cursor : Cursor)
    (nested : Nested cursor.size) :
    Outcome Expression cursor.size := do
  let start ← peek setting cursor
  let left ← arithmetic setting context cursor nested
  match ← takeIf? setting left.cursor comparison? with
  | some operator =>
      let right ←
        arithmetic setting .value operator.cursor
          ((nested.after left).after operator)
      left.before
        (operator.before
          (pure (right.map (.binary (.comparison operator.value) left.value))))
  | none => left.beforeRest (testAfter setting start left.value left.cursor)

/-- A comparison with any number of NOTs in front. -/
def negation
    (context : Context)
    (cursor : Cursor)
    (nested : Nested cursor.size) :
    Outcome Expression cursor.size := do
  let start ← peek setting cursor
  match ← takeIf? setting cursor (exactly (.keyword .notWord)) with
  | some word =>
      checkDepth setting cursor word.value
      let operand ←
        negation context.afterNot word.cursor.deeper (nested.after word)
      word.before (pure (operand.map (.unary .not)).shallower)
  | none =>
      let result ← comparison setting context cursor nested
      if context = .condition then
        checkCondition context start result.value
      pure result
termination_by cursor.size
decreasing_by
  exact word.size_lt

/-- The keyword of a connective. -/
def connectiveWord : Connective → Keyword
  | .or => .orWord
  | .and => .andWord

/--
Goes on after a left operand while a connective follows.  Operands that are
connected have to be conditions, unless any value may stand there.
-/
def chainAfter
    (connective : Connective)
    (context : Context)
    (operand : Reader)
    (start : Token)
    (left : Expression)
    (cursor : Cursor)
    (nested : Nested cursor.size) :
    Outcome Expression (cursor.size + 1) := do
  let accept := exactly (.keyword (connectiveWord connective))
  match ← takeIf? setting cursor accept with
  | none => pure (.unread left cursor)
  | some word =>
      checkCondition context start left
      let rightStart ← peek setting word.cursor
      let right ← operand word.cursor (nested.after word)
      checkCondition context rightStart right.value
      (word.before
        (right.beforeRest
          (chainAfter connective context operand start
            (.binary (.logical connective) left right.value)
            right.cursor ((nested.after word).after right)))).relaxed
termination_by cursor.size
decreasing_by
  exact Nat.lt_trans right.size_lt word.size_lt

/-- One or more operands with a connective between them, grouped to the left. -/
def chain
    (connective : Connective)
    (context : Context)
    (operand : Reader) :
    Reader :=
  fun cursor nested => do
    let start ← peek setting cursor
    let first ← operand cursor nested
    first.beforeRest
      (chainAfter setting connective context operand start first.value
        first.cursor (nested.after first))

/-- The loosest level of the grammar. -/
def disjunction (context : Context) : Reader :=
  chain setting .or context (chain setting .and context (negation setting context))

/-- An expression, in the place that the context names. -/
def expression
    (context : Context)
    (cursor : Cursor) :
    Outcome Expression cursor.size :=
  disjunction setting context cursor
    fun innerContext inner _isLater => expression innerContext inner
termination_by cursor.size

/-- The reader of nested expressions below a bound. -/
def nestedExpression (bound : Nat) : Nested bound :=
  fun context cursor _ => expression setting context cursor

end EventQuery.Grammar
