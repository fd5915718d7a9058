/-!
# Points in time as a query names them

A query names a point in time by a duration back from now, by an anchor, or by
a timestamp that is kept as written.  A time series is cut into buckets either
by the reader of the result or at a fixed interval.
-/

namespace EventQuery

/-- Units of durations and of bucket intervals. -/
inductive TimeUnit where
  | second
  | minute
  | hour
  | day
  | week
  | month
deriving DecidableEq, Repr

namespace TimeUnit

/-- All units, shortest first. -/
def all : List TimeUnit :=
  [second, minute, hour, day, week, month]

/-- The name of one unit. -/
def name : TimeUnit → String
  | second => "second"
  | minute => "minute"
  | hour => "hour"
  | day => "day"
  | week => "week"
  | month => "month"

/-- The name of the unit in the number of an amount. -/
def nameFor (unit : TimeUnit) (amount : UInt64) : String :=
  if amount = 1 then unit.name else unit.name ++ "s"

/-- The length in seconds; months differ in length and have none. -/
def seconds? : TimeUnit → Option Nat
  | second => some 1
  | minute => some 60
  | hour => some 3600
  | day => some 86400
  | week => some 604800
  | month => none

theorem seconds_pos {unit : TimeUnit} {seconds : Nat}
    (isFixed : unit.seconds? = some seconds) :
    0 < seconds := by
  cases unit <;> cases isFixed <;> decide

/-- Only months have no length in seconds. -/
theorem eq_month_of_seconds? {unit : TimeUnit}
    (isOpen : unit.seconds? = none) :
    unit = month := by
  cases unit with
  | month => rfl
  | _ => cases isOpen

end TimeUnit

/-- Named points in time. -/
inductive Anchor where
  /-- The midnight that starts the current day. -/
  | today
  /-- The midnight that starts the day before. -/
  | yesterday
  /-- The moment at which the query runs. -/
  | now
deriving DecidableEq, Repr

namespace Anchor

/-- All anchors. -/
def all : List Anchor :=
  [today, yesterday, now]

/-- The word of an anchor in a query. -/
def word : Anchor → String
  | today => "TODAY"
  | yesterday => "YESTERDAY"
  | now => "NOW"

end Anchor

/-- A point in time as a query names it. -/
inductive TimeSpec where
  /-- So many units before now. -/
  | ago (amount : UInt64) (unit : TimeUnit)
  /-- A named point. -/
  | anchor (anchor : Anchor)
  /-- A timestamp, kept as written. -/
  | timestamp (text : String)
deriving DecidableEq, Repr

/-- How a time series is cut into buckets. -/
inductive Bucketing where
  /-- Whoever shows the result chooses the size. -/
  | auto
  /-- Buckets of so many units each. -/
  | every (amount : UInt64) (unit : TimeUnit)
deriving DecidableEq, Repr

end EventQuery
