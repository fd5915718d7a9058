import EventQuery.Proofs.Time.Calendar
import EventQuery.Time.Instant
import Mathlib.Tactic.Ring

/-!
# Instants as dates and times of day

An instant is a date with a time of day, and the two say all about it:
`ofDate_date` and `date_ofDate`.  Instants are ordered first by their dates, and
the calendar reaches an instant if it has its date: `isBefore_iff_date` and
`isInCalendar_iff_date`.
-/

namespace EventQuery

namespace Instant

/-! ## The count of nanoseconds -/

/-- The nanoseconds from the start of 1970. -/
def nanosSinceEpoch (instant : Instant) : Int :=
  instant.seconds * nanosPerSecond + instant.nanos

theorem nanos_lt_of_not_isLeapSecond {instant : Instant}
    (isOrdinary : instant.isLeapSecond = false) :
    instant.nanos < nanosPerSecond := by
  rw [isLeapSecond, decide_eq_false_iff_not] at isOrdinary
  exact Nat.lt_of_not_le isOrdinary

/-- Days and the seconds since midnight make up the seconds of an instant. -/
theorem dayNumber_mul_add_secondOfDay (instant : Instant) :
    (instant.dayNumber - epochDay) * secondsPerDay + instant.secondOfDay =
      instant.seconds := by
  have isPositive : (0 : Int) ≤ instant.seconds % secondsPerDay :=
    Int.emod_nonneg _ (by decide)
  rw [dayNumber, secondOfDay, Int.toNat_of_nonneg isPositive, Int.add_sub_cancel]
  exact Int.ediv_mul_add_emod _ _

/-- Outside leap seconds the nanoseconds between two instants are an exact difference. -/
theorem nanosUntil_eq_sub {start finish : Instant}
    (startIsOrdinary : start.isLeapSecond = false)
    (finishIsOrdinary : finish.isLeapSecond = false) :
    start.nanosUntil finish = finish.nanosSinceEpoch - start.nanosSinceEpoch := by
  have startSeconds := dayNumber_mul_add_secondOfDay start
  have finishSeconds := dayNumber_mul_add_secondOfDay finish
  simp only [nanosUntil, timeOfDayDifference, startIsOrdinary, finishIsOrdinary,
    Bool.false_eq_true, and_false, if_false, Int.add_zero, nanosSinceEpoch]
  rw [← startSeconds, ← finishSeconds]
  ring

/-- Outside leap seconds the order of instants is that of their nanoseconds. -/
theorem isBefore_iff_nanosSinceEpoch_lt {start finish : Instant}
    (startIsOrdinary : start.isLeapSecond = false)
    (finishIsOrdinary : finish.isLeapSecond = false) :
    start.isBefore finish = true ↔ start.nanosSinceEpoch < finish.nanosSinceEpoch := by
  have startNanos := nanos_lt_of_not_isLeapSecond startIsOrdinary
  have finishNanos := nanos_lt_of_not_isLeapSecond finishIsOrdinary
  simp only [nanosPerSecond] at startNanos finishNanos
  simp only [isBefore, Bool.or_eq_true, Bool.and_eq_true, decide_eq_true_eq, beq_iff_eq,
    nanosSinceEpoch, nanosPerSecond]
  omega

/-! ## Date and time of day -/

theorem secondOfDay_lt (instant : Instant) : instant.secondOfDay < secondsPerDay := by
  simp only [secondOfDay, secondsPerDay]
  omega

/-- The date of an instant is proper. -/
theorem isProper_date (instant : Instant) : instant.date.IsProper :=
  Date.isProper_ofDayNumber _

theorem dayNumber_date (instant : Instant) : instant.date.dayNumber = instant.dayNumber :=
  Date.dayNumber_ofDayNumber _

/-- An instant is its date and its time of day. -/
theorem ofDate_date (instant : Instant) :
    ofDate instant.date instant.secondOfDay instant.nanos = instant := by
  rw [ofDate, dayNumber_date, dayNumber_mul_add_secondOfDay]

/-- The day and the second of the day are found back in the seconds of an instant. -/
theorem dayNumber_ofDate {date : Date} {second : Nat}
    (isInDay : second < secondsPerDay)
    (nanos : Nat) :
    (ofDate date second nanos).dayNumber = date.dayNumber ∧
      (ofDate date second nanos).secondOfDay = second := by
  simp only [ofDate, dayNumber, secondOfDay, secondsPerDay] at *
  omega

/-- The date is found back in the instant made from it. -/
theorem date_ofDate {date : Date} {second : Nat}
    (isProper : date.IsProper)
    (isInDay : second < secondsPerDay)
    (nanos : Nat) :
    (ofDate date second nanos).date = date := by
  rw [Instant.date, (dayNumber_ofDate isInDay nanos).1, Date.ofDayNumber_dayNumber isProper]

/-- Whether the time of day of one instant is before that of another. -/
def isBeforeInDay (first second : Instant) : Prop :=
  first.secondOfDay < second.secondOfDay ∨
    first.secondOfDay = second.secondOfDay ∧ first.nanos < second.nanos

/-- Of two instants the one with the earlier date is before the other. -/
theorem isBefore_iff_date {first second : Instant} :
    first.isBefore second = true ↔
      first.date.isBefore second.date = true ∨
        first.date = second.date ∧ first.isBeforeInDay second := by
  have firstSeconds := dayNumber_mul_add_secondOfDay first
  have secondSeconds := dayNumber_mul_add_secondOfDay second
  have firstInDay := secondOfDay_lt first
  have secondInDay := secondOfDay_lt second
  have sameDate : first.date = second.date ↔ first.dayNumber = second.dayNumber := by
    constructor
    · intro isSame
      rw [← dayNumber_date first, isSame, dayNumber_date]
    · intro sameDay
      rw [Instant.date, sameDay, Instant.date]
  rw [← Date.dayNumber_lt_dayNumber_iff (isProper_date first) (isProper_date second),
    dayNumber_date, dayNumber_date, sameDate]
  simp only [isBefore, isBeforeInDay, Bool.or_eq_true, Bool.and_eq_true, decide_eq_true_eq,
    beq_iff_eq, secondsPerDay] at *
  omega

/-! ## The reach of the calendar -/

/-- Whether the calendar reaches an instant. -/
def IsInCalendar (instant : Instant) : Prop :=
  firstSecond ≤ instant.seconds ∧ instant.seconds ≤ lastSecond

instance (instant : Instant) : Decidable instant.IsInCalendar :=
  inferInstanceAs (Decidable (_ ∧ _))

/-- The calendar reaches an instant if the year of its date is in the calendar. -/
theorem isInCalendar_iff_date {instant : Instant} :
    instant.IsInCalendar ↔ instant.date.isInCalendar = true := by
  have isSeconds := dayNumber_mul_add_secondOfDay instant
  have isInDay := secondOfDay_lt instant
  have isReached := @Calendar.le_yearOfDay_iff instant.dayNumber Calendar.firstYear
  have isPassed := @Calendar.le_yearOfDay_iff instant.dayNumber (Calendar.lastYear + 1)
  have isYear : instant.date.year = Calendar.yearOfDay instant.dayNumber :=
    Date.year_ofDayNumber _
  rw [Date.isInCalendar_iff, isYear, isReached]
  simp only [IsInCalendar, firstSecond, lastSecond, secondsPerDay] at *
  omega

/-- Another date can be taken exactly if the calendar has it. -/
theorem onDate?_eq (instant : Instant) {date : Date} (isProper : date.IsProper) :
    ∃ moved : Instant,
      moved.date = date ∧ moved.secondOfDay = instant.secondOfDay ∧
        moved.nanos = instant.nanos ∧
          instant.onDate? date = if moved.IsInCalendar then some moved else none := by
  have isInDay := secondOfDay_lt instant
  refine ⟨ofDate date instant.secondOfDay instant.nanos, date_ofDate isProper isInDay _,
    (dayNumber_ofDate isInDay _).2, rfl, ?_⟩
  simp only [isInCalendar_iff_date, date_ofDate isProper isInDay]
  rfl

end Instant

end EventQuery
