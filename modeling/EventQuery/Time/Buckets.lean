import EventQuery.Time.Resolve

/-!
# Counting buckets

The number of buckets that a time series needs to cover a window.  Buckets of
seconds up to weeks are counted by division.  Buckets of months are laid one
after the other from the start of the window, each to the same day of a later
month or to the last day of a shorter one.
-/

namespace EventQuery

namespace Buckets

/-- The quotient of two natural numbers, rounded up. -/
def quotientUp (dividend divisor : Nat) : Nat :=
  (dividend + divisor - 1) / divisor

/-- The number of buckets of so many seconds in a window, at least one. -/
def countSeconds (interval : Nat) (start finish : Instant) : Nat :=
  max 1 (quotientUp (start.secondsUntil finish).natAbs interval)

/--
The number of buckets of `amount + 1` months from a date to the end of a
window, added to those already laid.  The time of day of every boundary is the
same; `passes` says whether it is before the time of day of the end.
-/
def layMonths
    (amount : Nat)
    (passes : Bool)
    (finish : Date)
    (date : Date)
    (laid : Nat) :
    Option Nat :=
  if date.isBefore finish ∨ date = finish ∧ passes then
    let next := date.addMonths (amount + 1)
    if next.isInCalendar then
      layMonths amount passes finish next (laid + 1)
    else
      none
  else
    some laid
termination_by (finish.month + 1 - date.month).toNat
decreasing_by
  rename_i before _
  have notLater : date.month ≤ finish.month := by
    rcases before with earlier | ⟨same, _⟩
    · simp only [Date.isBefore, Bool.or_eq_true, Bool.and_eq_true,
        decide_eq_true_eq, beq_iff_eq] at earlier
      omega
    · exact Int.le_of_eq (congrArg Date.month same)
  simp only [Date.addMonths]
  omega

/-- The number of buckets of so many months in a window. -/
def countMonths (amount : Nat) (start finish : Instant) : Option Nat := do
  let passes :=
    start.secondOfDay < finish.secondOfDay ||
      start.secondOfDay == finish.secondOfDay && start.nanos < finish.nanos
  let months ← monthsOf? amount
  layMonths (months - 1) passes finish.date start.date 0

end Buckets

/--
The number of buckets from a start to an end.  There is none where the reader
of the result chooses the size, for an empty window, and for empty buckets.
-/
def Bucketing.count? (bucketing : Bucketing) (start finish : Instant) : Option Nat :=
  match bucketing with
  | auto => none
  | every amount unit =>
      if start.isBefore finish ∧ amount ≠ 0 then
        match unit.seconds? with
        | some seconds =>
            let interval := amount.toNat * seconds
            if interval < UInt64.size then
              some (Buckets.countSeconds interval start finish)
            else
              none
        | none => Buckets.countMonths amount.toNat start finish
      else
        none

end EventQuery
