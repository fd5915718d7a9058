import EventQuery.Time.Calendar

/-!
# Instants

An instant is a number of whole seconds from the start of 1970 in universal
time, and nanoseconds after it.  A leap second is the last second of a minute
with a thousand million nanoseconds or more.
-/

namespace EventQuery

/-- The number of nanoseconds of a second. -/
def nanosPerSecond : Nat := 1000000000

/-- The number of seconds of a day. -/
def secondsPerDay : Nat := 86400

/-- A moment in time. -/
structure Instant where
  seconds : Int
  nanos : Nat
deriving DecidableEq, Repr

namespace Instant

/-- The number of the day at whose start the count of seconds begins. -/
def epochDay : Int := 719528

/-- The first second of the calendar. -/
def firstSecond : Int :=
  (Calendar.daysBeforeYear Calendar.firstYear - epochDay) * secondsPerDay

/-- The last second of the calendar. -/
def lastSecond : Int :=
  (Calendar.daysBeforeYear (Calendar.lastYear + 1) - epochDay) * secondsPerDay - 1

/-- The instant itself if the calendar reaches it. -/
def inCalendar? (instant : Instant) : Option Instant :=
  if firstSecond ≤ instant.seconds ∧ instant.seconds ≤ lastSecond then
    some instant
  else
    none

/-- Whether the instant lies in a leap second. -/
def isLeapSecond (instant : Instant) : Bool :=
  nanosPerSecond ≤ instant.nanos

/-- The number of the day of the instant. -/
def dayNumber (instant : Instant) : Int :=
  instant.seconds / secondsPerDay + epochDay

/-- The date of the instant. -/
def date (instant : Instant) : Date :=
  .ofDayNumber instant.dayNumber

/-- The seconds since midnight. -/
def secondOfDay (instant : Instant) : Nat :=
  (instant.seconds % secondsPerDay).toNat

/-- The instant of a date and a time of day. -/
def ofDate (date : Date) (secondOfDay nanos : Nat) : Instant :=
  ⟨(date.dayNumber - epochDay) * secondsPerDay + secondOfDay, nanos⟩

/-- The midnight at the start of the day. -/
def midnight (instant : Instant) : Instant :=
  ⟨instant.seconds - instant.secondOfDay, 0⟩

/-- Whether one instant is before another. -/
def isBefore (first second : Instant) : Bool :=
  first.seconds < second.seconds ||
    first.seconds == second.seconds && first.nanos < second.nanos

/--
The instant so many seconds earlier.  Zero seconds earlier is the instant
itself; leaving a leap second, it counts as the second after the one it
extends.
-/
def secondsEarlier? (instant : Instant) (amount : Nat) : Option Instant :=
  if instant.isLeapSecond ∧ 0 < amount then
    inCalendar?
      ⟨instant.seconds + 1 - amount, instant.nanos - nanosPerSecond⟩
  else
    inCalendar? ⟨instant.seconds - amount, instant.nanos⟩

/-- The same time of day on another date, if the calendar reaches it. -/
def onDate? (instant : Instant) (date : Date) : Option Instant :=
  if date.isInCalendar then
    some (ofDate date instant.secondOfDay instant.nanos)
  else
    none

/--
The nanoseconds between the times of day of two instants.  A leap second at
the earlier of two different seconds counts in full.
-/
def timeOfDayDifference (start finish : Instant) : Int :=
  let leap : Int :=
    if start.secondOfDay < finish.secondOfDay ∧ start.isLeapSecond then
      1
    else if finish.secondOfDay < start.secondOfDay ∧ finish.isLeapSecond then
      -1
    else
      0
  (finish.secondOfDay - start.secondOfDay + leap) * nanosPerSecond +
    (finish.nanos - start.nanos)

/-- The nanoseconds from one instant to another. -/
def nanosUntil (start finish : Instant) : Int :=
  (finish.dayNumber - start.dayNumber) * secondsPerDay * nanosPerSecond +
    start.timeOfDayDifference finish

/-- The whole seconds from one instant to another, rounded toward zero. -/
def secondsUntil (start finish : Instant) : Int :=
  (start.nanosUntil finish).tdiv nanosPerSecond

end Instant

end EventQuery
