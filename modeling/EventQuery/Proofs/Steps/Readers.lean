import EventQuery.Proofs.Steps.Log

/-!
# The readers, logged

Each reader of the grammar with the stages that it begins.  A reader here goes
the way of the reader of the same name, step by step; the modules after this one
show that it gives the same.
-/

namespace EventQuery.Grammar.Logged

/-! ## Places within bounds -/

theorem size_lt_of_after {α : Type} {bound : Nat} {cursor : Cursor}
    (parsed : Parsed α bound)
    (isLater : cursor.size < parsed.cursor.size) :
    cursor.size < bound :=
  Nat.lt_trans isLater parsed.size_lt

theorem size_lt_of_onwards {α : Type} {bound : Nat} {cursor : Cursor}
    (parsed : Parsed α bound)
    (isLater : cursor.size < parsed.cursor.size + 1) :
    cursor.size < bound :=
  Nat.lt_of_lt_of_le isLater parsed.size_lt

theorem size_lt_of_within {cursor place inner : Cursor}
    (isWithin : place.size ≤ cursor.size)
    (isLater : inner.size < place.size + 1) :
    inner.size < cursor.size + 1 :=
  Nat.lt_of_lt_of_le isLater (Nat.succ_le_succ isWithin)

theorem size_le_itself (cursor : Cursor) : cursor.size ≤ cursor.size :=
  Nat.le_refl _

variable (setting : Setting)

/-! ## Lists with commas -/

/-- One or more values with commas between them. -/
def commaSeparated {α : Type}
    (item : (cursor : Cursor) → Logged (Parsed α cursor.size))
    (cursor : Cursor) :
    Logged (Parsed (List α) cursor.size) := do
  start .listItem cursor
  let first ← item cursor
  match ← takeIf? setting first.cursor (exactly .comma) with
  | none => pure (first.map fun value => [value])
  | some comma =>
      let others ← commaSeparated item comma.cursor
      quiet (first.before (comma.before (pure (others.map (first.value :: ·)))))
termination_by cursor.size
decreasing_by
  exact Nat.lt_trans comma.size_lt first.size_lt

/-! ## Operands and arithmetic -/

/-- A logged reader of nested expressions for places with fewer tokens ahead. -/
abbrev Nested (bound : Nat) :=
  Context → (cursor : Cursor) → cursor.size < bound →
    Logged (Parsed Expression cursor.size)

namespace Nested

/-- The same reader for places strictly after a given one. -/
def after {α : Type} {bound : Nat}
    (nested : Nested bound)
    (parsed : Parsed α bound) :
    Nested parsed.cursor.size :=
  fun context cursor isLater =>
    nested context cursor (size_lt_of_after parsed isLater)

/-- The same reader for a given place and the places after it. -/
def onwards {α : Type} {bound : Nat}
    (nested : Nested bound)
    (parsed : Parsed α bound) :
    Nested (parsed.cursor.size + 1) :=
  fun context cursor isLater =>
    nested context cursor (size_lt_of_onwards parsed isLater)

/-- What the reader gives one level deeper than a given place. -/
def deeper {α : Type} {bound : Nat}
    (nested : Nested bound)
    (context : Context)
    (parsed : Parsed α bound) :
    Logged (Parsed Expression parsed.cursor.deeper.size) :=
  nested context parsed.cursor.deeper parsed.size_lt

end Nested

/-- A logged reader of expressions, given one of what is nested in them. -/
abbrev Reader :=
  (cursor : Cursor) → Nested cursor.size → Logged (Parsed Expression cursor.size)

/-- One or more items with commas between them, through the closing parenthesis. -/
def closedList {α : Type} {bound : Nat}
    (item :
      (cursor : Cursor) → cursor.size ≤ bound → Logged (Parsed α cursor.size))
    (cursor : Cursor)
    (isWithin : cursor.size ≤ bound) :
    Logged (Parsed (List α) cursor.size) := do
  start .closedItem cursor
  let first ← item cursor isWithin
  let goesOn ←
    take setting first.cursor (expecting [.comma, .rightParenthesis]) listMark?
  if goesOn.value then
    let others ←
      closedList item goesOn.cursor
        (Nat.le_trans (Nat.le_of_lt (Nat.lt_trans goesOn.size_lt first.size_lt)) isWithin)
    quiet (first.before (goesOn.before (pure (others.map (first.value :: ·)))))
  else
    quiet (first.before (pure (goesOn.map fun _ => [first.value])))
termination_by cursor.size
decreasing_by
  exact Nat.lt_trans goesOn.size_lt first.size_lt

/-- A literal; a minus sign belongs to the number after it. -/
def literal (cursor : Cursor) : Logged (Parsed Literal cursor.size) := do
  start .literal cursor
  let first ← take setting cursor (expecting [.literal]) literalStart?
  match first.value with
  | .whole value => pure (first.map fun _ => value)
  | .minus =>
      let number ←
        take setting first.cursor (expecting [.number])
          fun token => token.number?.bind Number.negate?
      quiet (first.before (pure (number.map Literal.number)))

/-- The literals in parentheses after IN. -/
def literalList (cursor : Cursor) : Logged (Parsed (List Literal) cursor.size) := do
  start .literalList cursor
  let opening ←
    take setting cursor (expecting [.leftParenthesis]) (exactly .leftParenthesis)
  (closedList setting (fun place _ => literal setting place)
    opening.cursor (Nat.le_of_lt opening.size_lt)).through opening.before

/-- An argument of a call: the star alone, or any expression. -/
def argument
    (cursor : Cursor)
    (nested : Nested (cursor.size + 1)) :
    Logged (Parsed Expression cursor.size) := do
  start .argument cursor
  match ← takeIf? setting cursor (exactly (.arithmetic .multiply)) with
  | some star => pure (star.map fun _ => .wildcard)
  | none =>
      let token ← peek setting cursor
      match token.content with
      | .comma => quiet (throw (.unexpected token [.argument]))
      | .rightParenthesis => quiet (throw (.unexpected token [.argument]))
      | _ => nested .value cursor cursor.size_lt_succ

/-- The arguments of a call after its opening parenthesis, through the closing one. -/
def arguments
    (cursor : Cursor)
    (nested : Nested (cursor.size + 1)) :
    Logged (Parsed (List Expression) cursor.size) := do
  start .arguments cursor
  match ← takeIf? setting cursor (exactly .rightParenthesis) with
  | some closing => pure (closing.map fun _ => [])
  | none =>
      closedList setting
        (fun place isWithin =>
          argument setting place fun context inner isLater =>
            nested context inner (size_lt_of_within isWithin isLater))
        cursor (size_le_itself cursor)

/-- A constant, an attribute, a call or a group. -/
def primary
    (context : Context)
    (cursor : Cursor)
    (nested : Nested cursor.size) :
    Logged (Parsed Expression cursor.size) := do
  start .primary cursor
  let first ← take setting cursor (expecting [.expression]) operandStart?
  match first.value with
  | .whole value => pure (first.map fun _ => .literal value)
  | .group token =>
      quiet (checkDepth setting first.cursor token)
      let inner ← nested.deeper context.inGroup first
      let closing ←
        take setting inner.cursor (expecting [.rightParenthesis])
          (exactly .rightParenthesis)
      quiet
        (first.before
          (inner.before (pure (closing.map fun _ => inner.value).shallower)))
  | .name name =>
      match ← takeIf? setting first.cursor (exactly .leftParenthesis) with
      | none => pure (first.map fun _ => .field name)
      | some opening =>
          quiet (checkDepth setting first.cursor opening.value)
          let values ←
            arguments setting opening.cursor.deeper
              ((nested.after first).onwards opening)
          quiet
            (first.before
              (opening.before (pure (values.map (Expression.call name)).shallower)))

/-- An operand with any number of minus signs in front. -/
def signed
    (context : Context)
    (cursor : Cursor)
    (nested : Nested cursor.size) :
    Logged (Parsed Expression cursor.size) := do
  start .signed cursor
  match ← takeIf? setting cursor (exactly (.arithmetic .subtract)) with
  | none => primary setting context cursor nested
  | some minus =>
      quiet (checkDepth setting cursor minus.value)
      let operand ← signed .value minus.cursor.deeper (nested.after minus)
      quiet (minus.before (pure (operand.map negated).shallower))
termination_by cursor.size
decreasing_by
  exact minus.size_lt

/-- Goes on after a left operand while tight enough operators follow. -/
def arithmeticAfter
    (least : Nat)
    (left : Expression)
    (cursor : Cursor)
    (nested : Nested cursor.size) :
    Logged (Parsed Expression (cursor.size + 1)) := do
  start (.arithmeticAfter least) cursor
  match ← takeIf? setting cursor (operatorAtLeast? least) with
  | none => pure (.unread left cursor)
  | some operator =>
      let later := nested.after operator
      let operand ← signed setting .value operator.cursor later
      let right ←
        (arithmeticAfter (operator.value.precedence + 1)
          operand.value operand.cursor (later.after operand)).through operand.beforeRest
      (((arithmeticAfter least
        (.binary (.arithmetic operator.value) left right.value)
        right.cursor (later.after right)).through right.beforeRest).through
          operator.before).through Outcome.relaxed
termination_by cursor.size
decreasing_by
  · exact Nat.lt_trans operand.size_lt operator.size_lt
  · exact Nat.lt_trans right.size_lt operator.size_lt

/-- An arithmetic expression. -/
def arithmetic
    (context : Context)
    (cursor : Cursor)
    (nested : Nested cursor.size) :
    Logged (Parsed Expression cursor.size) := do
  start .arithmetic cursor
  let first ← signed setting context cursor nested
  (arithmeticAfter setting 0 first.value first.cursor (nested.after first)).through
    first.beforeRest

/-! ## Comparisons and connectives -/

/-- The rest of a test after its keyword. -/
def testBody
    (name : String)
    (isNegated : Bool)
    (test : Test)
    (cursor : Cursor) :
    Logged (Parsed Expression cursor.size) := do
  start .testBody cursor
  match test with
  | .membership =>
      let values ← literalList setting cursor
      pure (values.map fun values => .member name values isNegated)
  | .pattern =>
      let pattern ←
        take setting cursor (expecting [.stringPattern]) Token.string?
      pure (pattern.map fun pattern => .matching name pattern isNegated)

/-- What may follow a value: a test, perhaps negated, or nothing. -/
def testAfter
    (first : Token)
    (left : Expression)
    (cursor : Cursor) :
    Logged (Parsed Expression (cursor.size + 1)) := do
  start .testAfter cursor
  match ← takeIf? setting cursor (exactly (.keyword .notWord)) with
  | none =>
      match ← takeIf? setting cursor test? with
      | none => pure (.unread left cursor)
      | some test =>
          let name ← quiet (testedAttribute first left test.value)
          ((testBody setting name false test.value test.cursor).through
            test.before).through Outcome.relaxed
  | some word =>
      let test ←
        take setting word.cursor
          (expecting [.keyword .inWord, .keyword .likeWord]) test?
      let name ← quiet (testedAttribute first left test.value)
      (((testBody setting name true test.value test.cursor).through
        test.before).through word.before).through Outcome.relaxed

/-- A value, or a comparison of two values, or a test of an attribute. -/
def comparison
    (context : Context)
    (cursor : Cursor)
    (nested : Nested cursor.size) :
    Logged (Parsed Expression cursor.size) := do
  start .comparison cursor
  let first ← peek setting cursor
  let left ← arithmetic setting context cursor nested
  match ← takeIf? setting left.cursor comparison? with
  | some operator =>
      let right ←
        arithmetic setting .value operator.cursor
          ((nested.after left).after operator)
      quiet
        (left.before
          (operator.before
            (pure (right.map (.binary (.comparison operator.value) left.value)))))
  | none => (testAfter setting first left.value left.cursor).through left.beforeRest

/-- A comparison with any number of NOTs in front. -/
def negation
    (context : Context)
    (cursor : Cursor)
    (nested : Nested cursor.size) :
    Logged (Parsed Expression cursor.size) := do
  start .negation cursor
  let first ← peek setting cursor
  match ← takeIf? setting cursor (exactly (.keyword .notWord)) with
  | some word =>
      quiet (checkDepth setting cursor word.value)
      let operand ←
        negation context.afterNot word.cursor.deeper (nested.after word)
      quiet (word.before (pure (operand.map (.unary .not)).shallower))
  | none =>
      let result ← comparison setting context cursor nested
      if context = .condition then
        quiet (checkCondition context first result.value)
      pure result
termination_by cursor.size
decreasing_by
  exact word.size_lt

/-- Goes on after a left operand while a connective follows. -/
def chainAfter
    (connective : Connective)
    (context : Context)
    (operand : Reader)
    (first : Token)
    (left : Expression)
    (cursor : Cursor)
    (nested : Nested cursor.size) :
    Logged (Parsed Expression (cursor.size + 1)) := do
  start (.chainAfter connective) cursor
  match ← takeIf? setting cursor (exactly (.keyword (connectiveWord connective))) with
  | none => pure (.unread left cursor)
  | some word =>
      quiet (checkCondition context first left)
      let rightFirst ← peek setting word.cursor
      let right ← operand word.cursor (nested.after word)
      quiet (checkCondition context rightFirst right.value)
      (((chainAfter connective context operand first
        (.binary (.logical connective) left right.value)
        right.cursor ((nested.after word).after right)).through right.beforeRest).through
          word.before).through Outcome.relaxed
termination_by cursor.size
decreasing_by
  exact Nat.lt_trans right.size_lt word.size_lt

/-- One or more operands with a connective between them. -/
def chain
    (connective : Connective)
    (context : Context)
    (operand : Reader) :
    Reader :=
  fun cursor nested => do
    start (.chain connective) cursor
    let first ← peek setting cursor
    let left ← operand cursor nested
    (chainAfter setting connective context operand first left.value
      left.cursor (nested.after left)).through left.beforeRest

/-- The loosest level of the grammar. -/
def disjunction (context : Context) : Reader :=
  chain setting .or context (chain setting .and context (negation setting context))

/-- An expression, in the place that the context names. -/
def expression
    (context : Context)
    (cursor : Cursor) :
    Logged (Parsed Expression cursor.size) :=
  disjunction setting context cursor
    fun innerContext inner _isLater => expression innerContext inner
termination_by cursor.size

/-- The logged reader of nested expressions below a bound. -/
def nestedExpression (bound : Nat) : Nested bound :=
  fun context cursor _ => expression setting context cursor

/-! ## Clauses and queries -/

/-- A column without its alias. -/
def column (cursor : Cursor) : Logged (Parsed SelectItem cursor.size) := do
  start .column cursor
  let first ← peek setting cursor
  if startsColumn first then
    let expression ←
      arithmetic setting .value cursor (nestedExpression setting cursor.size)
    match column? expression.value with
    | some item => pure (expression.map fun _ => item)
    | none => quiet (throw (.unexpected first [.selectItem]))
  else
    quiet (throw (.unexpected first [.selectItem]))

/-- A column, with an alias after AS if there is one. -/
def selectItem (cursor : Cursor) : Logged (Parsed SelectItem cursor.size) := do
  start .selectItem cursor
  let item ← column setting cursor
  match ← takeIf? setting item.cursor (exactly (.keyword .asWord)) with
  | none => pure item
  | some word =>
      let named ← take setting word.cursor (expecting [.aliasName]) aliasName?
      let whole := named.map fun name => { item.value with aliasName := some name }
      quiet (item.before (word.before (pure whole)))

/-- One or more columns. -/
def selectList (cursor : Cursor) : Logged (Parsed (List SelectItem) cursor.size) :=
  commaSeparated setting (selectItem setting) cursor

/-- One or more names of the expected kind. -/
def nameList
    (expected : Expectation)
    (cursor : Cursor) :
    Logged (Parsed (List String) cursor.size) :=
  commaSeparated setting
    (fun place => take setting place (expecting [expected]) Token.name?) cursor

/-- A positive whole number. -/
def positiveInteger (cursor : Cursor) : Logged (Parsed UInt64 cursor.size) :=
  take setting cursor (expecting [.positiveInteger]) Token.amount?

/-- The unit and the word AGO after an amount. -/
def durationAfter
    (amount : UInt64)
    (cursor : Cursor) :
    Logged (Parsed TimeSpec cursor.size) := do
  start .duration cursor
  let unit ← take setting cursor (timeError .notAUnit) namedUnit?
  let word ←
    take setting unit.cursor (timeError (.missingAgo amount unit.value.2))
      (exactly (.keyword .agoWord))
  quiet (unit.before (pure (word.map fun _ => .ago amount unit.value.1)))

/-- A point in time after the words of a clause. -/
def timeSpec
    (clause : Clause)
    (cursor : Cursor) :
    Logged (Parsed TimeSpec cursor.size) := do
  start .timeSpec cursor
  let first ← take setting cursor (timeError (.notAPoint clause)) timeStart?
  match first.value with
  | .whole spec => pure (first.map fun _ => spec)
  | .amount token =>
      match token.amount? with
      | none => quiet (throw (timeError .notAnAmount token))
      | some amount => (durationAfter setting amount first.cursor).through first.before

/-- A bucket size. -/
def bucketing (cursor : Cursor) : Logged (Parsed Bucketing cursor.size) := do
  start .bucketing cursor
  let first ←
    take setting cursor (expecting [.keyword .autoWord, .bucketInterval])
      bucketStart?
  match first.value with
  | .auto => pure (first.map fun _ => .auto)
  | .amount token =>
      match token.amount? with
      | none => quiet (throw (.unexpected token [.positiveInteger]))
      | some amount =>
          let unit ←
            take setting first.cursor (expecting [.timeUnit]) Token.timeUnit?
          quiet (first.before (pure (unit.map (Bucketing.every amount))))

/-- A query with one more clause, read after the keyword of that clause. -/
def clauseBody
    (clause : Clause)
    (query : Query)
    (cursor : Cursor) :
    Logged (Parsed Query cursor.size) := do
  start .clauseBody cursor
  match clause with
  | .condition =>
      let condition ← expression setting .condition cursor
      pure (condition.map fun value => { query with condition := some value })
  | .facet =>
      let facet ← nameList setting .facetAttribute cursor
      pure (facet.map fun value => { query with facet := some value })
  | .limit =>
      let limit ← positiveInteger setting cursor
      pure (limit.map fun value => { query with limit := some value })
  | .since =>
      let since ← timeSpec setting clause cursor
      pure (since.map fun value => { query with since := some value })
  | .upTo =>
      let upTo ← timeSpec setting clause cursor
      pure (upTo.map fun value => { query with upTo := some value })
  | .compareWith =>
      let word ← takeKeyword setting .withWord cursor
      let spec ← timeSpec setting clause word.cursor
      quiet
        (word.before
          (pure (spec.map fun value => { query with compareWith := some value })))
  | .timeseries =>
      let timeseries ← bucketing setting cursor
      pure (timeseries.map fun value => { query with timeseries := some value })
  | .select =>
      let select ← selectList setting cursor
      pure (select.map fun value => { query with select := value })
  | .source =>
      let sources ← nameList setting .eventType cursor
      pure (sources.map fun value => { query with sources := value })

/-- The optional clauses, of which only some may still follow. -/
def optionalClauses
    (allowed : List Clause)
    (query : Query)
    (cursor : Cursor) :
    Logged Query := do
  start .optionalClauses cursor
  let token ← peek setting cursor
  if token.content = .endOfInput then
    pure query
  else
    let first ←
      take setting cursor (expecting (expectedAtBoundary allowed))
        fun token => clauseAt? token allowed
    let body ← clauseBody setting first.value.1 query first.cursor
    optionalClauses first.value.2 body.value body.cursor
termination_by cursor.size
decreasing_by
  exact Nat.lt_trans body.size_lt first.size_lt

/-- A query from its first token through its end. -/
def query (cursor : Cursor) : Logged Query := do
  start .query cursor
  let selectWord ← takeKeyword setting .selectWord cursor
  let columns ←
    clauseBody setting .select { select := [], sources := [] } selectWord.cursor
  let fromWord ← takeKeyword setting .fromWord columns.cursor
  let sources ← clauseBody setting .source columns.value fromWord.cursor
  optionalClauses setting Clause.optional sources.value sources.cursor

end EventQuery.Grammar.Logged
