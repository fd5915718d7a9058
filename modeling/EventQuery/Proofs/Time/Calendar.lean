import EventQuery.Time.Calendar
import Mathlib.Order.SuccPred.Archimedean

/-!
# Dates and the numbers of days

The days of the calendar are numbered without gaps.  Every day has a proper
date, a proper date is that of its day, and earlier dates have smaller numbers:
`dayNumber_ofDayNumber`, `ofDayNumber_dayNumber` and
`dayNumber_lt_dayNumber_iff`.
-/

namespace EventQuery

namespace Calendar

/-! ## Years -/

theorem daysBeforeYear_succ (year : Int) :
    daysBeforeYear (year + 1) =
      daysBeforeYear year + (if isLeapYear year then 366 else 365) := by
  simp only [daysBeforeYear, isLeapYear, Bool.and_eq_true, Bool.or_eq_true, beq_iff_eq,
    bne_iff_ne]
  split <;> omega

theorem daysBeforeYear_lt_succ (year : Int) :
    daysBeforeYear year < daysBeforeYear (year + 1) := by
  rw [daysBeforeYear_succ]
  split <;> omega

/-- Later years start on later days. -/
theorem daysBeforeYear_lt_iff {first second : Int} :
    daysBeforeYear first < daysBeforeYear second ↔ first < second :=
  (strictMono_int_of_lt_succ daysBeforeYear_lt_succ).lt_iff_lt

theorem daysBeforeYear_le_iff {first second : Int} :
    daysBeforeYear first ≤ daysBeforeYear second ↔ first ≤ second :=
  (strictMono_int_of_lt_succ daysBeforeYear_lt_succ).le_iff_le

/-- Four hundred years have 146097 days, so that the quotient misses by one year at most. -/
theorem daysBeforeYear_estimate (day : Int) :
    daysBeforeYear (400 * day / 146097 - 1) ≤ day ∧
      day < daysBeforeYear (400 * day / 146097 + 1 + 1) := by
  simp only [daysBeforeYear]
  omega

/-- A day lies in its year. -/
theorem daysBeforeYear_yearOfDay (day : Int) :
    daysBeforeYear (yearOfDay day) ≤ day ∧ day < daysBeforeYear (yearOfDay day + 1) := by
  have ⟨isNotTooLate, isNotTooEarly⟩ := daysBeforeYear_estimate day
  simp only [yearOfDay]
  split
  · rename_i isLate
    rw [Int.sub_add_cancel]
    exact ⟨isNotTooLate, isLate⟩
  · rename_i isNotLate
    split
    · rename_i isEarly
      exact ⟨isEarly, isNotTooEarly⟩
    · rename_i isNotEarly
      exact ⟨Int.not_lt.mp isNotLate, Int.not_le.mp isNotEarly⟩

/-- A day is no earlier than a year if the year has started. -/
theorem le_yearOfDay_iff {day year : Int} :
    year ≤ yearOfDay day ↔ daysBeforeYear year ≤ day := by
  have ⟨isStarted, isNotOver⟩ := daysBeforeYear_yearOfDay day
  constructor
  · intro isReached
    exact (daysBeforeYear_le_iff.mpr isReached).trans isStarted
  · intro starts
    have isNotEarlier : year < yearOfDay day + 1 :=
      daysBeforeYear_lt_iff.mp (starts.trans_lt isNotOver)
    omega

/-! ## Months of a year -/

/-- The days of the first months of a year. -/
def daysBeforeMonth (isLeap : Bool) (months : Nat) : Nat :=
  ((monthLengths isLeap).take months).foldr Nat.add 0

theorem daysBeforeMonth_succ (isLeap : Bool) {month : Nat} (isMonth : month < 12) :
    daysBeforeMonth isLeap (month + 1) =
      daysBeforeMonth isLeap month + lengthInYear isLeap month := by
  revert isLeap month
  decide

/-- The months of a year make up its days. -/
theorem daysBeforeYear_succ_eq_months (year : Int) :
    daysBeforeYear (year + 1) = daysBeforeYear year + daysBeforeMonth (isLeapYear year) 12 := by
  rw [daysBeforeYear_succ]
  cases isLeapYear year <;> rfl

theorem le_lengthInYear (isLeap : Bool) (month : Nat) : 28 ≤ lengthInYear isLeap month := by
  unfold lengthInYear
  split
  · split <;> decide
  all_goals decide

/-- Of the months given, one holds the day, behind the months before it. -/
theorem exists_monthAndDay {day : Nat} {lengths : List Nat}
    (isIn : day < lengths.foldr Nat.add 0) :
    ∃ length,
      lengths[(monthAndDay day lengths).1]? = some length ∧
        (monthAndDay day lengths).2 < length ∧
          (lengths.take (monthAndDay day lengths).1).foldr Nat.add 0 +
            (monthAndDay day lengths).2 = day := by
  induction lengths generalizing day with
  | nil => exact absurd isIn (Nat.not_lt_zero day)
  | cons first others ih =>
      by_cases isFirst : day < first
      · refine ⟨first, ?_⟩
        simp [monthAndDay, isFirst]
      · have isLater : day - first < others.foldr Nat.add 0 := by
          simp only [List.foldr_cons, Nat.add_eq] at isIn
          omega
        obtain ⟨length, isLength, isShort, isSum⟩ := ih isLater
        refine ⟨length, ?_⟩
        simp only [monthAndDay, if_neg isFirst, List.getElem?_cons_succ, List.take_succ_cons,
          List.foldr_cons, Nat.add_eq]
        exact ⟨isLength, isShort, by omega⟩

end Calendar

open Calendar

namespace Date

/-! ## Days of a month -/

/-- A date whose day is one of its month. -/
structure IsProper (date : Date) : Prop where
  day_pos : 1 ≤ date.day
  day_le : date.day ≤ monthLength date.month

/-- The first 28 days are in every month. -/
theorem le_monthLength (month : Int) : 28 ≤ monthLength month :=
  le_lengthInYear _ _

/-- The days before a month. -/
def daysBefore (month : Int) : Int :=
  daysBeforeYear (month / 12) +
    daysBeforeMonth (isLeapYear (month / 12)) (month % 12).toNat

/-- The number of a day is that of the days before its month and in it. -/
theorem dayNumber_eq (date : Date) :
    date.dayNumber = daysBefore date.month + date.day - 1 :=
  rfl

theorem daysBefore_succ (month : Int) :
    daysBefore (month + 1) = daysBefore month + monthLength month := by
  simp only [daysBefore, monthLength]
  by_cases isLast : month % 12 = 11
  · obtain ⟨isNextYear, isFirst⟩ :
        (month + 1) / 12 = month / 12 + 1 ∧ (month + 1) % 12 = 0 := by
      omega
    have isYear := daysBeforeYear_succ_eq_months (month / 12)
    have isFull :
        daysBeforeMonth (isLeapYear (month / 12)) 12 =
          daysBeforeMonth (isLeapYear (month / 12)) 11 +
            lengthInYear (isLeapYear (month / 12)) 11 :=
      daysBeforeMonth_succ _ (by decide)
    have isEmpty : daysBeforeMonth (isLeapYear (month / 12 + 1)) 0 = 0 := rfl
    have isLastNat : (month % 12).toNat = 11 := by omega
    rw [isNextYear, isFirst, Int.toNat_zero, isEmpty, isLastNat]
    omega
  · obtain ⟨sameYear, isNext⟩ :
        (month + 1) / 12 = month / 12 ∧ (month + 1) % 12 = month % 12 + 1 := by
      omega
    have isNextNat : (month % 12 + 1).toNat = (month % 12).toNat + 1 := by omega
    rw [sameYear, isNext, isNextNat, daysBeforeMonth_succ _ (by omega)]
    omega

theorem daysBefore_lt_succ (month : Int) : daysBefore month < daysBefore (month + 1) := by
  have isLong := le_monthLength month
  rw [daysBefore_succ]
  omega

/-- Later months start on later days. -/
theorem daysBefore_le_iff {first second : Int} :
    daysBefore first ≤ daysBefore second ↔ first ≤ second :=
  (strictMono_int_of_lt_succ daysBefore_lt_succ).le_iff_le

/-! ## The order of dates -/

theorem isBefore_iff {first second : Date} :
    first.isBefore second = true ↔
      first.month < second.month ∨ first.month = second.month ∧ first.day < second.day := by
  simp [isBefore]

theorem isBefore_trans {first second third : Date}
    (isBefore : first.isBefore second = true)
    (isBeforeToo : second.isBefore third = true) :
    first.isBefore third = true := by
  rw [isBefore_iff] at *
  omega

/-- Earlier dates have smaller numbers. -/
theorem dayNumber_lt_of_isBefore {first second : Date}
    (isProper : first.IsProper)
    (isProperToo : second.IsProper)
    (isBefore : first.isBefore second = true) :
    first.dayNumber < second.dayNumber := by
  have isIn := isProper.day_le
  have isSome := isProperToo.day_pos
  rw [dayNumber_eq, dayNumber_eq]
  rcases isBefore_iff.mp isBefore with isEarlier | ⟨sameMonth, isEarlier⟩
  · have isLater : daysBefore (first.month + 1) ≤ daysBefore second.month :=
      daysBefore_le_iff.mpr isEarlier
    rw [daysBefore_succ] at isLater
    omega
  · rw [sameMonth]
    omega

/-- One of two dates is before the other, or they are the same. -/
theorem isBefore_or_eq_or_isBefore (first second : Date) :
    first.isBefore second = true ∨ first = second ∨ second.isBefore first = true := by
  obtain ⟨month, day⟩ := first
  obtain ⟨otherMonth, otherDay⟩ := second
  simp only [isBefore_iff, Date.mk.injEq]
  omega

/-- The numbers of days are in the order of the dates. -/
theorem dayNumber_lt_dayNumber_iff {first second : Date}
    (isProper : first.IsProper)
    (isProperToo : second.IsProper) :
    first.dayNumber < second.dayNumber ↔ first.isBefore second = true := by
  constructor
  · intro isLess
    rcases isBefore_or_eq_or_isBefore first second with isBefore | rfl | isAfter
    · exact isBefore
    · exact absurd isLess (Int.lt_irrefl _)
    · have isMore := dayNumber_lt_of_isBefore isProperToo isProper isAfter
      omega
  · exact dayNumber_lt_of_isBefore isProper isProperToo

/-- Two proper dates of one day are the same. -/
theorem eq_of_dayNumber_eq {first second : Date}
    (isProper : first.IsProper)
    (isProperToo : second.IsProper)
    (sameDay : first.dayNumber = second.dayNumber) :
    first = second := by
  rcases isBefore_or_eq_or_isBefore first second with isBefore | isSame | isAfter
  · have isLess := dayNumber_lt_of_isBefore isProper isProperToo isBefore
    omega
  · exact isSame
  · have isMore := dayNumber_lt_of_isBefore isProperToo isProper isAfter
    omega

/-! ## The date of a day -/

/-- The days of a year, counted from zero, are as many as its months have together. -/
theorem dayOfYear_lt (day : Int) :
    (day - daysBeforeYear (yearOfDay day)).toNat <
      (monthLengths (isLeapYear (yearOfDay day))).foldr Nat.add 0 := by
  have ⟨isStarted, isNotOver⟩ := daysBeforeYear_yearOfDay day
  have isYear : daysBeforeMonth (isLeapYear (yearOfDay day)) 12 =
      (monthLengths (isLeapYear (yearOfDay day))).foldr Nat.add 0 :=
    rfl
  rw [daysBeforeYear_succ_eq_months] at isNotOver
  omega

/-- The month and the day of a day of the year are those of the year's months. -/
theorem ofDayNumber_spec (day : Int) :
    ∃ month dayOfMonth : Nat,
      ofDayNumber day = ⟨yearOfDay day * 12 + month, dayOfMonth + 1⟩ ∧
        month < 12 ∧
          dayOfMonth < lengthInYear (isLeapYear (yearOfDay day)) month ∧
            daysBeforeYear (yearOfDay day) +
              daysBeforeMonth (isLeapYear (yearOfDay day)) month + dayOfMonth = day := by
  obtain ⟨length, isLength, isShort, isSum⟩ := exists_monthAndDay (dayOfYear_lt day)
  have ⟨isStarted, _⟩ := daysBeforeYear_yearOfDay day
  obtain ⟨isMonth, isItsLength⟩ := List.getElem?_eq_some_iff.mp isLength
  simp only [monthLengths, List.length_map, List.length_range] at isMonth
  simp only [monthLengths, List.getElem_map, List.getElem_range] at isItsLength
  refine ⟨_, _, rfl, isMonth, isItsLength ▸ isShort, ?_⟩
  simp only [daysBeforeMonth]
  omega

theorem month_div_twelve {year : Int} {month : Nat} (isMonth : month < 12) :
    (year * 12 + month) / 12 = year ∧ ((year * 12 + month) % 12).toNat = month := by
  omega

/-- The date of a day lies in the year of the day. -/
theorem year_ofDayNumber (day : Int) :
    (ofDayNumber day).year = yearOfDay day := by
  obtain ⟨month, dayOfMonth, isDate, isMonth, -, -⟩ := ofDayNumber_spec day
  rw [isDate]
  exact (month_div_twelve isMonth).1

theorem isProper_ofDayNumber (day : Int) :
    (ofDayNumber day).IsProper := by
  obtain ⟨month, dayOfMonth, isDate, isMonth, isShort, -⟩ := ofDayNumber_spec day
  rw [isDate]
  refine ⟨Nat.le_add_left 1 dayOfMonth, ?_⟩
  rw [monthLength, (month_div_twelve isMonth).1, (month_div_twelve isMonth).2]
  exact isShort

/-- The date of a day has the number of the day. -/
@[simp]
theorem dayNumber_ofDayNumber (day : Int) :
    (ofDayNumber day).dayNumber = day := by
  obtain ⟨month, dayOfMonth, isDate, isMonth, -, isSum⟩ := ofDayNumber_spec day
  rw [isDate, dayNumber_eq, daysBefore, (month_div_twelve isMonth).1,
    (month_div_twelve isMonth).2]
  push_cast
  omega

/-- A proper date is the date of its day. -/
theorem ofDayNumber_dayNumber {date : Date} (isProper : date.IsProper) :
    ofDayNumber date.dayNumber = date :=
  eq_of_dayNumber_eq (isProper_ofDayNumber _) isProper (dayNumber_ofDayNumber _)

/-- A proper date lies in its year. -/
theorem daysBeforeYear_le_dayNumber {date : Date} (isProper : date.IsProper) :
    daysBeforeYear date.year ≤ date.dayNumber ∧
      date.dayNumber < daysBeforeYear (date.year + 1) := by
  have isYear := year_ofDayNumber date.dayNumber
  rw [ofDayNumber_dayNumber isProper] at isYear
  rw [isYear]
  exact daysBeforeYear_yearOfDay date.dayNumber

theorem isInCalendar_iff {date : Date} :
    date.isInCalendar = true ↔ firstYear ≤ date.year ∧ date.year ≤ lastYear := by
  simp [isInCalendar]

/-! ## Dates some months away -/

/-- Moving by months leads to a proper date. -/
theorem IsProper.addMonths {date : Date} (isProper : date.IsProper) (months : Int) :
    (date.addMonths months).IsProper where
  day_pos := Nat.le_min.mpr ⟨isProper.day_pos, Nat.le_trans (by decide) (le_monthLength _)⟩
  day_le := Nat.min_le_right _ _

end Date

end EventQuery
