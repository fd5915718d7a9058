/-!
# The calendar

Dates of the Gregorian calendar, extended to all years before and after.  A
date is a month and a day of it, and months are numbered through all years, so
that adding months is adding numbers.

Days are numbered from the first day of the year zero.
-/

namespace EventQuery

namespace Calendar

/-- Whether a year has a 29th of February. -/
def isLeapYear (year : Int) : Bool :=
  year % 4 == 0 && (year % 100 != 0 || year % 400 == 0)

/-- The length of a month, counted from zero within its year. -/
def lengthInYear (isLeap : Bool) : Nat → Nat
  | 1 => if isLeap then 29 else 28
  | 3 => 30
  | 5 => 30
  | 8 => 30
  | 10 => 30
  | _ => 31

/-- The lengths of the months of a year. -/
def monthLengths (isLeap : Bool) : List Nat :=
  (List.range 12).map (lengthInYear isLeap)

/-- The number of days before the first day of a year. -/
def daysBeforeYear (year : Int) : Int :=
  365 * year + (year + 3) / 4 - (year + 99) / 100 + (year + 399) / 400

/-- The year in which a day lies. -/
def yearOfDay (day : Int) : Int :=
  let estimate := 400 * day / 146097
  if day < daysBeforeYear estimate then
    estimate - 1
  else if daysBeforeYear (estimate + 1) ≤ day then
    estimate + 1
  else
    estimate

/--
The month and the day, both counted from zero, of a day of a year whose
remaining months have the given lengths.
-/
def monthAndDay (day : Nat) : List Nat → Nat × Nat
  | [] => (0, day)
  | length :: others =>
      if day < length then
        (0, day)
      else
        let rest := monthAndDay (day - length) others
        (rest.1 + 1, rest.2)

/-- The first year of the calendar. -/
def firstYear : Int := -262143

/-- The last year of the calendar. -/
def lastYear : Int := 262142

end Calendar

open Calendar

/-- A date: the number of its month, counted through all years, and its day from one on. -/
structure Date where
  month : Int
  day : Nat
deriving DecidableEq, Repr

namespace Date

/-- The year of a date. -/
def year (date : Date) : Int :=
  date.month / 12

/-- The month within the year, counted from zero. -/
def monthOfYear (date : Date) : Nat :=
  (date.month % 12).toNat

/-- The number of days of a month, which is counted through all years. -/
def monthLength (month : Int) : Nat :=
  lengthInYear (isLeapYear (month / 12)) (month % 12).toNat

/-- Whether the year of the date is in the calendar. -/
def isInCalendar (date : Date) : Bool :=
  firstYear ≤ date.year && date.year ≤ lastYear

/-- The date of a year, a month from one to twelve and a day, if there is one. -/
def ofFields? (year : Int) (month day : Nat) : Option Date :=
  let date : Date := ⟨year * 12 + month - 1, day⟩
  if 1 ≤ month ∧ month ≤ 12 ∧ 1 ≤ day ∧ day ≤ monthLength date.month ∧
      date.isInCalendar then
    some date
  else
    none

/-- The number of the day. -/
def dayNumber (date : Date) : Int :=
  let monthsBefore :=
    (monthLengths (isLeapYear date.year)).take date.monthOfYear
  daysBeforeYear date.year + monthsBefore.foldr Nat.add 0 + date.day - 1

/-- The date of a day. -/
def ofDayNumber (day : Int) : Date :=
  let year := yearOfDay day
  let dayOfYear := (day - daysBeforeYear year).toNat
  let split := monthAndDay dayOfYear (monthLengths (isLeapYear year))
  ⟨year * 12 + split.1, split.2 + 1⟩

/--
The same day of another month, so many months later, or the last day of that
month if it is shorter.
-/
def addMonths (date : Date) (months : Int) : Date :=
  let month := date.month + months
  ⟨month, min date.day (monthLength month)⟩

/-- Whether one date is before another. -/
def isBefore (first second : Date) : Bool :=
  first.month < second.month ||
    first.month == second.month && first.day < second.day

end Date

end EventQuery
