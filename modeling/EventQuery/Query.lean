import EventQuery.Expression
import EventQuery.Keyword
import EventQuery.Time.Spec

/-!
# Queries

A query selects columns from types of events.  The clauses after that are
optional, each stands at most once, and their order is fixed.
-/

namespace EventQuery

/--
A column of the result: an aggregate call, or arithmetic over calls, which is
kept as the symbol of the operator and its two operands.
-/
structure SelectItem where
  function : String
  arguments : List Expression
  aliasName : Option String

namespace SelectItem

/-- The name of the column: its alias, or else its function. -/
def columnName (item : SelectItem) : String :=
  item.aliasName.getD item.function

/-- The arithmetic operator that the column applies to its two operands, if it does. -/
def operator? (item : SelectItem) : Option Arithmetic :=
  match BinaryOperator.ofSymbol? item.function, item.arguments with
  | some (.arithmetic operator), [_, _] => some operator
  | _, _ => none

/-- Equality of columns, where the two zeros of binary64 are equal. -/
def agrees (first second : SelectItem) : Bool :=
  first.function == second.function &&
    Expression.listAgrees first.arguments second.arguments &&
    first.aliasName == second.aliasName

end SelectItem

/-- The clauses of a query, in the order in which they stand. -/
inductive Clause where
  | select
  | source
  | condition
  | facet
  | limit
  | since
  | upTo
  | compareWith
  | timeseries
deriving DecidableEq, Repr

namespace Clause

/-- The clauses that may follow the sources, in order. -/
def optional : List Clause :=
  [condition, facet, limit, since, upTo, compareWith, timeseries]

/-- The keyword at the start of a clause. -/
def keyword : Clause → Keyword
  | select => .selectWord
  | source => .fromWord
  | condition => .whereWord
  | facet => .facetWord
  | limit => .limitWord
  | since => .sinceWord
  | upTo => .untilWord
  | compareWith => .compareWord
  | timeseries => .timeseriesWord

/-- The words that introduce a clause. -/
def words : Clause → String
  | compareWith => "COMPARE WITH"
  | clause => clause.keyword.word

end Clause

/-- A query. -/
structure Query where
  select : List SelectItem
  sources : List String
  condition : Option Expression := none
  facet : Option (List String) := none
  limit : Option UInt64 := none
  since : Option TimeSpec := none
  upTo : Option TimeSpec := none
  compareWith : Option TimeSpec := none
  timeseries : Option Bucketing := none

namespace Query

/-- Whether a clause is present; the first two always are. -/
def has (query : Query) : Clause → Bool
  | .select => true
  | .source => true
  | .condition => query.condition.isSome
  | .facet => query.facet.isSome
  | .limit => query.limit.isSome
  | .since => query.since.isSome
  | .upTo => query.upTo.isSome
  | .compareWith => query.compareWith.isSome
  | .timeseries => query.timeseries.isSome

/-- The clauses that are present, in order. -/
def clauses (query : Query) : List Clause :=
  [.select, .source] ++ Clause.optional.filter query.has

/-- Equality of optional conditions, where the two zeros of binary64 are equal. -/
def conditionAgrees : Option Expression → Option Expression → Bool
  | none, none => true
  | some first, some second => first.agrees second
  | _, _ => false

/-- Equality of lists of columns, item by item. -/
def selectAgrees : List SelectItem → List SelectItem → Bool
  | [], [] => true
  | first :: firsts, second :: seconds =>
      first.agrees second && selectAgrees firsts seconds
  | _, _ => false

/-- Equality of queries, where the two zeros of binary64 are equal. -/
def agrees (first second : Query) : Bool :=
  selectAgrees first.select second.select &&
    first.sources == second.sources &&
    conditionAgrees first.condition second.condition &&
    first.facet == second.facet &&
    first.limit == second.limit &&
    first.since == second.since &&
    first.upTo == second.upTo &&
    first.compareWith == second.compareWith &&
    first.timeseries == second.timeseries

end Query

end EventQuery
