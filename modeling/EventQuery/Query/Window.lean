import EventQuery.Query
import EventQuery.Time.Buckets

/-!
# The window of a query

What the time clauses of a query amount to once it is known when it runs.
-/

namespace EventQuery

/-- The instants and the number of buckets of a query that runs at a given time. -/
structure Window where
  since : Option Instant
  upTo : Option Instant
  compareWith : Option Instant
  /-- The number of buckets, if there is a series over a window with a start. -/
  buckets : Option Nat
deriving DecidableEq, Repr

/-- The window of a query that runs now; a window without an end reaches to now. -/
def Query.window (query : Query) (now : Instant) : Window :=
  let instant (spec : Option TimeSpec) : Option Instant :=
    spec.bind fun spec => spec.resolve? now
  let since := instant query.since
  let upTo := instant query.upTo
  { since := since
    upTo := upTo
    compareWith := instant query.compareWith
    buckets :=
      match query.timeseries, since with
      | some bucketing, some start => bucketing.count? start (upTo.getD now)
      | _, _ => none }

end EventQuery
