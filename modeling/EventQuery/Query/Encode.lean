import EventQuery.Json.Value
import EventQuery.Query

/-!
# Queries as JSON

The JSON form of a query has one field per clause, in the order of the
clauses, and null for a clause that is absent.  A node that comes in several
forms is an object whose first field, `type`, names the form.
-/

namespace EventQuery

/-- An object of the given form. -/
def Json.tagged (form : String) (fields : List (String × Json)) : Json :=
  .object (("type", .string form) :: fields)

/-- A value, or null if there is none. -/
def Json.ofOption {α : Type} (encode : α → Json) : Option α → Json
  | none => .null
  | some value => encode value

/-- A whole number of 64 bits without sign. -/
def Json.ofUInt64 (value : UInt64) : Json :=
  .integer value.toNat

/-- A list of strings. -/
def Json.ofStrings (values : List String) : Json :=
  .array (values.map .string)

/-- A number keeps its class. -/
def Number.toJson : Number → Json
  | integer value => .integer value.toInt
  | float value => .float value

/-- A constant is written as itself. -/
def Literal.toJson : Literal → Json
  | number value => value.toJson
  | string value => .string value
  | boolean value => .boolean value

/-- An operator is written as its symbol. -/
def BinaryOperator.toJson (operator : BinaryOperator) : Json :=
  .string operator.symbol

/-- A prefix operator is written as its symbol. -/
def UnaryOperator.toJson (operator : UnaryOperator) : Json :=
  .string operator.symbol

namespace Expression

mutual

/-- An expression as JSON. -/
def toJson : Expression → Json
  | literal value => .tagged "Literal" [("value", value.toJson)]
  | field name => .tagged "Identifier" [("name", .string name)]
  | wildcard => .tagged "Wildcard" []
  | call function arguments =>
      .tagged "FunctionCall"
        [("name", .string function), ("args", .array (listToJson arguments))]
  | binary operator left right =>
      .tagged "BinaryOp"
        [("op", operator.toJson), ("left", left.toJson), ("right", right.toJson)]
  | unary operator operand =>
      .tagged "UnaryOp"
        [("op", operator.toJson), ("operand", operand.toJson)]
  | member name values negated =>
      .tagged "InList"
        [("identifier", .string name),
          ("values", .array (values.map Literal.toJson)),
          ("negated", .boolean negated)]
  | matching name pattern negated =>
      .tagged "LikePattern"
        [("identifier", .string name),
          ("pattern", .string pattern),
          ("negated", .boolean negated)]

/-- Each of some expressions as JSON. -/
def listToJson : List Expression → List Json
  | [] => []
  | expression :: expressions => expression.toJson :: listToJson expressions

end

end Expression

/-- A column as JSON. -/
def SelectItem.toJson (item : SelectItem) : Json :=
  .object
    [("function", .string item.function),
      ("args", .array (Expression.listToJson item.arguments)),
      ("alias", .ofOption .string item.aliasName)]

/-- A unit is written as its name. -/
def TimeUnit.toJson (unit : TimeUnit) : Json :=
  .string unit.name

/-- A point in time as JSON; durations always lead to the past. -/
def TimeSpec.toJson : TimeSpec → Json
  | ago amount unit =>
      .tagged "RelativeDuration"
        [("amount", .ofUInt64 amount),
          ("unit", unit.toJson),
          ("direction", .string "ago")]
  | anchor point => .tagged "NamedAnchor" [("anchor", .string point.word)]
  | timestamp text => .tagged "AbsoluteTimestamp" [("timestamp", .string text)]

/-- A bucket size as JSON. -/
def Bucketing.toJson : Bucketing → Json
  | auto => .tagged "Auto" []
  | every amount unit =>
      .tagged "FixedInterval"
        [("amount", .ofUInt64 amount), ("unit", unit.toJson)]

/-- A query as JSON. -/
def Query.toJson (query : Query) : Json :=
  .object
    [("select", .array (query.select.map SelectItem.toJson)),
      ("from", .ofStrings query.sources),
      ("where", .ofOption Expression.toJson query.condition),
      ("facet", .ofOption Json.ofStrings query.facet),
      ("limit", .ofOption Json.ofUInt64 query.limit),
      ("since", .ofOption TimeSpec.toJson query.since),
      ("until", .ofOption TimeSpec.toJson query.upTo),
      ("compareWith", .ofOption TimeSpec.toJson query.compareWith),
      ("timeseries", .ofOption Bucketing.toJson query.timeseries)]

end EventQuery
