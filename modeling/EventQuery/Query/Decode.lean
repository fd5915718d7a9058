import EventQuery.Json.Value
import EventQuery.Query

/-!
# Queries from JSON

Decoding asks for the right shape and nothing more: fields that mean nothing
are passed over, and a decoded query may well be one that no text says.  A
clause that is null or missing is absent; every other field has to be there.
Names are compared exactly.
-/

namespace EventQuery

namespace Json

/-- The string of a field. -/
def stringField? (json : Json) (name : String) : Option String :=
  (json.field? name).bind string?

/-- The truth value of a field. -/
def booleanField? (json : Json) (name : String) : Option Bool :=
  (json.field? name).bind boolean?

/-- The whole number of 64 bits without sign that a value is. -/
def uint64? : Json → Option UInt64
  | integer value =>
      if 0 ≤ value ∧ value < UInt64.size then
        some (UInt64.ofNat value.toNat)
      else
        none
  | _ => none

/-- The whole number of 64 bits without sign of a field. -/
def uint64Field? (json : Json) (name : String) : Option UInt64 :=
  (json.field? name).bind uint64?

/-- The list that a value is, if each of its items can be decoded. -/
def list? {α : Type} (decode : Json → Option α) (json : Json) :
    Option (List α) :=
  json.items?.bind fun items => items.mapM decode

/-- The list of a field, if each of its items can be decoded. -/
def listField? {α : Type}
    (decode : Json → Option α)
    (json : Json)
    (name : String) :
    Option (List α) :=
  (json.field? name).bind (list? decode)

/-- A field that may be null or missing; any other value has to be decoded. -/
def optionField? {α : Type}
    (decode : Json → Option α)
    (json : Json)
    (name : String) :
    Option (Option α) :=
  match json.field? name with
  | none => some none
  | some null => some none
  | some value => (decode value).map some

/-- A value that a field holds is smaller than the object. -/
theorem sizeOf_lt_of_lookup?
    {fields : List (String × Json)}
    {name : String}
    {value : Json}
    (found : lookup? fields name = some value) :
    sizeOf value < sizeOf fields := by
  fun_induction lookup? fields name with
  | case1 => simp at found
  | case2 key first others later equality ih =>
      simp only [Option.some.injEq] at found
      subst found
      have := ih equality
      simp only [List.cons.sizeOf_spec]
      omega
  | case3 first others equality ih =>
      simp only [Option.some.injEq] at found
      subst found
      simp only [List.cons.sizeOf_spec, Prod.mk.sizeOf_spec]
      omega
  | case4 => simp at found

theorem sizeOf_lt_of_field?
    {json value : Json}
    {name : String}
    (found : json.field? name = some value) :
    sizeOf value < sizeOf json := by
  unfold field? at found
  split at found
  · have := sizeOf_lt_of_lookup? found
    simp only [object.sizeOf_spec]
    omega
  · simp at found

theorem sizeOf_lt_of_items?
    {json : Json}
    {items : List Json}
    (found : json.items? = some items) :
    sizeOf items < sizeOf json := by
  unfold items? at found
  split at found
  · simp only [Option.some.injEq] at found
    subst found
    simp
  · simp at found

end Json

/-- An integer that fits into 64 bits stays one; any other number is binary64. -/
def Number.ofJson? : Json → Option Number
  | .integer value =>
      match Number.ofInt? value with
      | some number => some number
      | none => some (.float (Decimal.Binary64.ofInt value))
  | .float value => some (.float value)
  | _ => none

/-- A constant is a number, a string or a truth value. -/
def Literal.ofJson? (json : Json) : Option Literal :=
  match json with
  | .string value => some (.string value)
  | .boolean value => some (.boolean value)
  | _ => (Number.ofJson? json).map .number

/-- The operator with the given symbol, in exactly this spelling. -/
def BinaryOperator.ofJson? (json : Json) : Option BinaryOperator :=
  json.string?.bind fun symbol =>
    BinaryOperator.all.find? fun operator => operator.symbol == symbol

/-- The prefix operator with the given symbol, in exactly this spelling. -/
def UnaryOperator.ofJson? (json : Json) : Option UnaryOperator :=
  json.string?.bind fun symbol =>
    [not, negate].find? fun operator => operator.symbol == symbol

namespace Expression

mutual

/-- An expression from its JSON form. -/
def ofJson? (json : Json) : Option Expression :=
  match json.stringField? "type" with
  | some "Literal" => do
      let value ← (json.field? "value").bind Literal.ofJson?
      pure (literal value)
  | some "Identifier" => do
      let name ← json.stringField? "name"
      pure (field name)
  | some "Wildcard" => some wildcard
  | some "FunctionCall" => do
      let name ← json.stringField? "name"
      match found : json.field? "args" with
      | none => none
      | some value =>
          match items : value.items? with
          | none => none
          | some values =>
              have := Json.sizeOf_lt_of_field? found
              have := Json.sizeOf_lt_of_items? items
              let arguments ← listOfJson? values
              pure (call name arguments)
  | some "BinaryOp" => do
      let operator ← (json.field? "op").bind BinaryOperator.ofJson?
      match foundLeft : json.field? "left", foundRight : json.field? "right" with
      | some leftValue, some rightValue =>
          have := Json.sizeOf_lt_of_field? foundLeft
          have := Json.sizeOf_lt_of_field? foundRight
          let left ← ofJson? leftValue
          let right ← ofJson? rightValue
          pure (binary operator left right)
      | _, _ => none
  | some "UnaryOp" => do
      let operator ← (json.field? "op").bind UnaryOperator.ofJson?
      match found : json.field? "operand" with
      | none => none
      | some value =>
          have := Json.sizeOf_lt_of_field? found
          let operand ← ofJson? value
          pure (unary operator operand)
  | some "InList" => do
      let name ← json.stringField? "identifier"
      let values ← json.listField? Literal.ofJson? "values"
      let negated ← json.booleanField? "negated"
      pure (member name values negated)
  | some "LikePattern" => do
      let name ← json.stringField? "identifier"
      let pattern ← json.stringField? "pattern"
      let negated ← json.booleanField? "negated"
      pure (matching name pattern negated)
  | _ => none
termination_by sizeOf json

/-- Each of some expressions from its JSON form. -/
def listOfJson? (values : List Json) : Option (List Expression) :=
  match values with
  | [] => some []
  | value :: others => do
      let expression ← ofJson? value
      let expressions ← listOfJson? others
      pure (expression :: expressions)
termination_by sizeOf values

end

end Expression

/-- A column from its JSON form. -/
def SelectItem.ofJson? (json : Json) : Option SelectItem := do
  let function ← json.stringField? "function"
  let arguments ← json.listField? Expression.ofJson? "args"
  let aliasName ← json.optionField? Json.string? "alias"
  pure ⟨function, arguments, aliasName⟩

/-- A unit from its name. -/
def TimeUnit.ofJson? (json : Json) : Option TimeUnit :=
  json.string?.bind fun name =>
    TimeUnit.all.find? fun unit => unit.name == name

/-- An anchor from its word. -/
def Anchor.ofJson? (json : Json) : Option Anchor :=
  json.string?.bind fun word =>
    Anchor.all.find? fun anchor => anchor.word == word

/-- A point in time from its JSON form. -/
def TimeSpec.ofJson? (json : Json) : Option TimeSpec :=
  match json.stringField? "type" with
  | some "RelativeDuration" => do
      let amount ← json.uint64Field? "amount"
      let unit ← (json.field? "unit").bind TimeUnit.ofJson?
      let direction ← json.stringField? "direction"
      if direction = "ago" then
        pure (ago amount unit)
      else
        none
  | some "NamedAnchor" => do
      let point ← (json.field? "anchor").bind Anchor.ofJson?
      pure (anchor point)
  | some "AbsoluteTimestamp" => do
      let text ← json.stringField? "timestamp"
      pure (timestamp text)
  | _ => none

/-- A bucket size from its JSON form. -/
def Bucketing.ofJson? (json : Json) : Option Bucketing :=
  match json.stringField? "type" with
  | some "Auto" => some auto
  | some "FixedInterval" => do
      let amount ← json.uint64Field? "amount"
      let unit ← (json.field? "unit").bind TimeUnit.ofJson?
      pure (every amount unit)
  | _ => none

/-- A query from its JSON form. -/
def Query.ofJson? (json : Json) : Option Query := do
  let select ← json.listField? SelectItem.ofJson? "select"
  let sources ← json.listField? Json.string? "from"
  let condition ← json.optionField? Expression.ofJson? "where"
  let facet ← json.optionField? (Json.list? Json.string?) "facet"
  let limit ← json.optionField? Json.uint64? "limit"
  let since ← json.optionField? TimeSpec.ofJson? "since"
  let upTo ← json.optionField? TimeSpec.ofJson? "until"
  let compareWith ← json.optionField? TimeSpec.ofJson? "compareWith"
  let timeseries ← json.optionField? Bucketing.ofJson? "timeseries"
  pure {
    select := select
    sources := sources
    condition := condition
    facet := facet
    limit := limit
    since := since
    upTo := upTo
    compareWith := compareWith
    timeseries := timeseries }

end EventQuery
