import EventQuery.Canonical.Expression
import EventQuery.Query

/-!
# Canonical text of queries

The clauses of a query in their order, one space apart.
-/

namespace EventQuery

namespace SelectItem

/-- The pieces of a column without its alias. -/
def columnPieces (item : SelectItem) : List Piece :=
  match item.operator?, item.arguments with
  | some operator, [left, right] =>
      (Expression.binary (.arithmetic operator) left right).pieces
  | _, arguments => (Expression.call item.function arguments).pieces

/-- The pieces of a column. -/
def pieces (item : SelectItem) : List Piece :=
  match item.aliasName with
  | none => item.columnPieces
  | some name =>
      item.columnPieces ++
        [.space, .keyword .asWord, .space, .string name]

/-- The canonical text of a column. -/
def text (item : SelectItem) : String :=
  Piece.textOf item.pieces

end SelectItem

namespace TimeSpec

/-- The pieces of a point in time. -/
def pieces : TimeSpec → List Piece
  | ago amount unit =>
      [.whole amount.toNat, .space, .timeUnit amount unit, .space,
        .keyword .agoWord]
  | anchor point => [.keyword (.anchorWord point)]
  | timestamp text => [.string text]

/-- The canonical text of a point in time. -/
def text (spec : TimeSpec) : String :=
  Piece.textOf spec.pieces

end TimeSpec

namespace Bucketing

/-- The pieces of a bucket size. -/
def pieces : Bucketing → List Piece
  | auto => [.keyword .autoWord]
  | every amount unit =>
      [.whole amount.toNat, .space, .timeUnit amount unit]

/-- The canonical text of a bucket size. -/
def text (bucketing : Bucketing) : String :=
  Piece.textOf bucketing.pieces

end Bucketing

namespace Query

/-- The pieces of a list of names. -/
def namePieces (names : List String) : List Piece :=
  Piece.separated (names.map fun name => [.name name])

/-- The words that introduce a clause after another one, and its body. -/
def clausePieces (keywords : List Keyword) (body : List Piece) : List Piece :=
  .space :: keywords.flatMap (fun keyword => [.keyword keyword, .space]) ++ body

/-- The pieces of an optional clause, if it is present. -/
def optionalPieces {α : Type}
    (keywords : List Keyword)
    (body : α → List Piece)
    (value : Option α) :
    List Piece :=
  match value with
  | none => []
  | some present => clausePieces keywords (body present)

/-- The pieces of a query. -/
def pieces (query : Query) : List Piece :=
  .keyword .selectWord :: .space ::
    Piece.separated (query.select.map SelectItem.pieces) ++
    clausePieces [.fromWord] (namePieces query.sources) ++
    optionalPieces [.whereWord] Expression.pieces query.condition ++
    optionalPieces [.facetWord] namePieces query.facet ++
    optionalPieces [.limitWord] (fun limit => [.whole limit.toNat]) query.limit ++
    optionalPieces [.sinceWord] TimeSpec.pieces query.since ++
    optionalPieces [.untilWord] TimeSpec.pieces query.upTo ++
    optionalPieces [.compareWord, .withWord] TimeSpec.pieces query.compareWith ++
    optionalPieces [.timeseriesWord] Bucketing.pieces query.timeseries

/-- The canonical text of a query. -/
def text (query : Query) : String :=
  Piece.textOf query.pieces

end Query

end EventQuery
