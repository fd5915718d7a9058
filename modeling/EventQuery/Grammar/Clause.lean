import EventQuery.Grammar.Condition

/-!
# The bodies of clauses

Columns, lists of names, points in time, limits and bucket sizes.  Each reader
starts after the keyword of its clause.
-/

namespace EventQuery.Grammar

variable (setting : Setting)

/-- Whether a column may start with this token. -/
def startsColumn (token : Token) : Bool :=
  token.name?.isSome ||
    match token.content with
    | .number _ => true
    | .leftParenthesis => true
    | .arithmetic .subtract => true
    | _ => false

/--
Whether an expression is arithmetic over calls and numbers, and if so, whether
there is a call in it.  A call named like an arithmetic operator does not
count, since as a column it would pass for the operator itself.
-/
def callsInArithmetic? : Expression → Option Bool
  | .call function _ =>
      match BinaryOperator.ofSymbol? function with
      | some (.arithmetic _) => none
      | _ => some true
  | .literal (.number _) => some false
  | .unary .negate operand => callsInArithmetic? operand
  | .binary (.arithmetic _) left right =>
      match callsInArithmetic? left, callsInArithmetic? right with
      | some inLeft, some inRight => some (inLeft || inRight)
      | _, _ => none
  | _ => none

/-- The column that an expression describes: a call, or an operator on top of calls. -/
def column? (expression : Expression) : Option SelectItem :=
  if callsInArithmetic? expression = some true then
    match expression with
    | .call function arguments => some ⟨function, arguments, none⟩
    | .binary operator left right =>
        some ⟨operator.symbol, [left, right], none⟩
    | _ => none
  else
    none

/-- The alias that a token gives: a string or a name. -/
def aliasName? (token : Token) : Option String :=
  match token.string? with
  | some value => some value
  | none => token.name?

/-- A column without its alias. -/
def column (cursor : Cursor) : Outcome SelectItem cursor.size := do
  let start ← peek setting cursor
  if startsColumn start then
    let expression ←
      arithmetic setting .value cursor (nestedExpression setting cursor.size)
    match column? expression.value with
    | some item => pure (expression.map fun _ => item)
    | none => throw (.unexpected start [.selectItem])
  else
    throw (.unexpected start [.selectItem])

/-- A column, with an alias after AS if there is one. -/
def selectItem (cursor : Cursor) : Outcome SelectItem cursor.size := do
  let item ← column setting cursor
  match ← takeIf? setting item.cursor (exactly (.keyword .asWord)) with
  | none => pure item
  | some word =>
      let named ← take setting word.cursor (expecting [.aliasName]) aliasName?
      let whole := named.map fun name => { item.value with aliasName := some name }
      item.before (word.before (pure whole))

/-- One or more columns. -/
def selectList (cursor : Cursor) : Outcome (List SelectItem) cursor.size :=
  commaSeparated setting (selectItem setting) cursor

/-- One or more names of the expected kind. -/
def nameList
    (expected : Expectation)
    (cursor : Cursor) :
    Outcome (List String) cursor.size :=
  commaSeparated setting
    (fun place => take setting place (expecting [expected]) Token.name?) cursor

/-- A positive whole number. -/
def positiveInteger (cursor : Cursor) : Outcome UInt64 cursor.size :=
  take setting cursor (expecting [.positiveInteger]) Token.amount?

/-- The error of a malformed point in time at a token. -/
def timeError (fault : Token → TimeFault) (token : Token) : QueryError :=
  .time token.position (fault token)

/-- What a token may start in the place of a point in time. -/
inductive TimeStart where
  | whole (spec : TimeSpec)
  /-- The amount of a duration, which has yet to be looked at. -/
  | amount (token : Token)

/-- The point in time that a token is or starts. -/
def timeStart? (token : Token) : Option TimeStart :=
  match token.content with
  | .keyword (.anchorWord anchor) => some (.whole (.anchor anchor))
  | .string text => some (.whole (.timestamp text))
  | .number _ => some (.amount token)
  | _ => none

/-- The unit that a token names, together with the token. -/
def namedUnit? (token : Token) : Option (TimeUnit × Token) :=
  token.timeUnit?.map fun unit => (unit, token)

/-- The unit and the word AGO after an amount. -/
def durationAfter
    (amount : UInt64)
    (cursor : Cursor) :
    Outcome TimeSpec cursor.size := do
  let unit ← take setting cursor (timeError .notAUnit) namedUnit?
  let word ←
    take setting unit.cursor (timeError (.missingAgo amount unit.value.2))
      (exactly (.keyword .agoWord))
  unit.before (pure (word.map fun _ => .ago amount unit.value.1))

/-- A point in time after the words of a clause. -/
def timeSpec (clause : Clause) (cursor : Cursor) : Outcome TimeSpec cursor.size := do
  let start ← take setting cursor (timeError (.notAPoint clause)) timeStart?
  match start.value with
  | .whole spec => pure (start.map fun _ => spec)
  | .amount token =>
      match token.amount? with
      | none => throw (timeError .notAnAmount token)
      | some amount => start.before (durationAfter setting amount start.cursor)

/-- What a token may start in the place of a bucket size. -/
inductive BucketStart where
  | auto
  /-- The amount of an interval, which has yet to be looked at. -/
  | amount (token : Token)

/-- The bucket size that a token is or starts. -/
def bucketStart? (token : Token) : Option BucketStart :=
  match token.content with
  | .keyword .autoWord => some .auto
  | .number _ => some (.amount token)
  | _ => none

/-- A bucket size. -/
def bucketing (cursor : Cursor) : Outcome Bucketing cursor.size := do
  let start ←
    take setting cursor (expecting [.keyword .autoWord, .bucketInterval])
      bucketStart?
  match start.value with
  | .auto => pure (start.map fun _ => .auto)
  | .amount token =>
      match token.amount? with
      | none => throw (.unexpected token [.positiveInteger])
      | some amount =>
          let unit ←
            take setting start.cursor (expecting [.timeUnit]) Token.timeUnit?
          start.before (pure (unit.map (Bucketing.every amount)))

end EventQuery.Grammar
