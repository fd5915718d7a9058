import EventQuery.Grammar.Clause

/-!
# Whole queries

A query is its columns, its sources, and then any of the optional clauses in
their fixed order.  At the boundary between two clauses only later clauses may
follow, and an error there names all of them.
-/

namespace EventQuery

namespace Grammar

variable (setting : Setting)

/-- A query with one more clause, read after the keyword of that clause. -/
def clauseBody
    (clause : Clause)
    (query : Query)
    (cursor : Cursor) :
    Outcome Query cursor.size := do
  match clause with
  | .condition =>
      let condition ← expression setting .condition cursor
      pure (condition.map fun value => { query with condition := some value })
  | .facet =>
      let facet ← nameList setting .facetAttribute cursor
      pure (facet.map fun value => { query with facet := some value })
  | .limit =>
      let limit ← positiveInteger setting cursor
      pure (limit.map fun value => { query with limit := some value })
  | .since =>
      let since ← timeSpec setting clause cursor
      pure (since.map fun value => { query with since := some value })
  | .upTo =>
      let upTo ← timeSpec setting clause cursor
      pure (upTo.map fun value => { query with upTo := some value })
  | .compareWith =>
      let word ← takeKeyword setting .withWord cursor
      let spec ← timeSpec setting clause word.cursor
      word.before
        (pure (spec.map fun value => { query with compareWith := some value }))
  | .timeseries =>
      let timeseries ← bucketing setting cursor
      pure (timeseries.map fun value => { query with timeseries := some value })
  | .select =>
      let select ← selectList setting cursor
      pure (select.map fun value => { query with select := value })
  | .source =>
      let sources ← nameList setting .eventType cursor
      pure (sources.map fun value => { query with sources := value })

/-- The first of some clauses that starts with the token, and the clauses after it. -/
def clauseAt? (token : Token) : List Clause → Option (Clause × List Clause)
  | [] => none
  | clause :: later =>
      if token.content = .keyword clause.keyword then
        some (clause, later)
      else
        clauseAt? token later

/-- What is expected at a boundary where only these clauses may follow. -/
def expectedAtBoundary (allowed : List Clause) : List Expectation :=
  allowed.map .clause ++ [.endOfInput]

/--
The optional clauses, of which only some may still follow, through the end of
the query.
-/
def optionalClauses
    (allowed : List Clause)
    (query : Query)
    (cursor : Cursor) :
    Except QueryError Query := do
  let token ← peek setting cursor
  if token.content = .endOfInput then
    pure query
  else
    let start ←
      take setting cursor (expecting (expectedAtBoundary allowed))
        fun token => clauseAt? token allowed
    let body ← clauseBody setting start.value.1 query start.cursor
    optionalClauses start.value.2 body.value body.cursor
termination_by cursor.size
decreasing_by
  exact Nat.lt_trans body.size_lt start.size_lt

/-- A query from its first token through its end. -/
def query (cursor : Cursor) : Except QueryError Query := do
  let selectWord ← takeKeyword setting .selectWord cursor
  let columns ←
    clauseBody setting .select { select := [], sources := [] } selectWord.cursor
  let fromWord ← takeKeyword setting .fromWord columns.cursor
  let sources ← clauseBody setting .source columns.value fromWord.cursor
  optionalClauses setting Clause.optional sources.value sources.cursor

end Grammar

/-- Bounds on the queries that are accepted. -/
structure Limits where
  /-- How deep calls, groups and prefix operators may be nested. -/
  maxDepth : Nat := 64
  /-- The greatest length of a query in bytes, if there is one. -/
  maxLength : Option Nat := none
deriving DecidableEq, Repr

namespace TokenStream

/-- The query that a stream of tokens says. -/
def query (stream : TokenStream) (maxDepth : Nat) : Except QueryError Query :=
  Grammar.query ⟨stream.ending, maxDepth⟩ ⟨stream.tokens, 0⟩

end TokenStream

namespace Query

/-- The query that a text says, within limits. -/
def parseWithin (limits : Limits) (source : String) : Except QueryError Query :=
  (TokenStream.ofSource source limits.maxLength).query limits.maxDepth

/-- The query that a text says, within the usual limits. -/
def parse (source : String) : Except QueryError Query :=
  parseWithin {} source

end Query

end EventQuery
