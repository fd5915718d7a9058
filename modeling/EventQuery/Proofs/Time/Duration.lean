import EventQuery.Proofs.Time.Instant
import EventQuery.Time.Resolve

/-!
# Durations back from now

A duration leads back to the one instant that is exactly so long before, or, for
months, to the same time of day in the month so many earlier.  The amounts that
are refused for their size lead to instants that the calendar does not reach, so
that they are the same as all others: `resolve?_ago`.
-/

namespace EventQuery

namespace Instant

/-- Outside leap seconds the nanoseconds tell an instant. -/
theorem eq_of_nanosSinceEpoch_eq {first second : Instant}
    (firstIsOrdinary : first.isLeapSecond = false)
    (secondIsOrdinary : second.isLeapSecond = false)
    (sameNanos : first.nanosSinceEpoch = second.nanosSinceEpoch) :
    first = second := by
  have firstNanos := nanos_lt_of_not_isLeapSecond firstIsOrdinary
  have secondNanos := nanos_lt_of_not_isLeapSecond secondIsOrdinary
  obtain ⟨seconds, nanos⟩ := first
  obtain ⟨otherSeconds, otherNanos⟩ := second
  simp only [nanosSinceEpoch, nanosPerSecond, Instant.mk.injEq] at *
  omega

/-- The seconds of ordinary instants are in the order of their nanoseconds. -/
theorem seconds_le_of_nanosSinceEpoch_le {first second : Instant}
    (secondIsOrdinary : second.isLeapSecond = false)
    (isNotLater : first.nanosSinceEpoch ≤ second.nanosSinceEpoch) :
    first.seconds ≤ second.seconds := by
  have secondNanos := nanos_lt_of_not_isLeapSecond secondIsOrdinary
  simp only [nanosSinceEpoch, nanosPerSecond] at *
  omega

/-! ## What a duration means -/

/-- So many units before an instant, whether the calendar reaches there or not. -/
inductive IsBack (now : Instant) (amount : Nat) : TimeUnit → Instant → Prop where
  /-- Units of one length are so many nanoseconds. -/
  | fixed {unit : TimeUnit} {seconds : Nat} {exact : Instant}
      (isFixed : unit.seconds? = some seconds)
      (isOrdinary : exact.isLeapSecond = false)
      (isExact :
        exact.nanosSinceEpoch =
          now.nanosSinceEpoch - (amount * seconds * nanosPerSecond : Nat)) :
      IsBack now amount unit exact
  /-- Months keep the time of day, and the day unless the month is too short for it. -/
  | months {exact : Instant}
      (isMonth : exact.date.month = now.date.month - amount)
      (isDay : exact.date.day = min now.date.day (Date.monthLength exact.date.month))
      (sameSecond : exact.secondOfDay = now.secondOfDay)
      (sameNanos : exact.nanos = now.nanos) :
      IsBack now amount .month exact

variable {now : Instant} {unit : TimeUnit}

/-- Only one instant is so many units before another. -/
theorem IsBack.unique {amount : Nat} {first second : Instant}
    (isFirst : now.IsBack amount unit first)
    (isSecond : now.IsBack amount unit second) :
    first = second := by
  cases isFirst with
  | fixed isFixed isOrdinary isExact =>
      cases isSecond with
      | fixed isFixedToo isOrdinaryToo isExactToo =>
          cases isFixed.symm.trans isFixedToo
          exact eq_of_nanosSinceEpoch_eq isOrdinary isOrdinaryToo (isExact.trans isExactToo.symm)
      | months => cases isFixed
  | months isMonth isDay sameSecond sameNanos =>
      cases isSecond with
      | fixed isFixed => cases isFixed
      | months isMonthToo isDayToo sameSecondToo sameNanosToo =>
          have sameMonth : first.date.month = second.date.month := isMonth.trans isMonthToo.symm
          have sameDate : first.date = second.date := by
            rw [sameMonth, ← isDayToo] at isDay
            exact congrArg₂ Date.mk sameMonth isDay
          rw [← ofDate_date first, sameDate, sameSecond, sameNanos, ← sameSecondToo,
            ← sameNanosToo, ofDate_date]

/-- No units before an ordinary instant is the instant itself. -/
theorem isBack_zero (isOrdinary : now.isLeapSecond = false) : now.IsBack 0 unit now := by
  cases isFixed : unit.seconds? with
  | some seconds =>
      refine .fixed isFixed isOrdinary ?_
      rw [Nat.zero_mul, Nat.zero_mul]
      exact (Int.sub_zero _).symm
  | none =>
      obtain rfl := TimeUnit.eq_month_of_seconds? isFixed
      refine .months (Int.sub_zero _).symm ?_ rfl rfl
      exact (Nat.min_eq_left now.isProper_date.day_le).symm

/-- What is back from an ordinary instant is ordinary. -/
theorem IsBack.isOrdinary {amount : Nat} {exact : Instant}
    (isBack : now.IsBack amount unit exact)
    (isOrdinary : now.isLeapSecond = false) :
    exact.isLeapSecond = false := by
  cases isBack with
  | fixed _ isOrdinaryToo => exact isOrdinaryToo
  | months _ _ _ sameNanos => rwa [isLeapSecond, sameNanos]

/-- More units lead further back. -/
theorem IsBack.antitone {fewer more : Nat} {earlier later : Instant}
    (isOrdinary : now.isLeapSecond = false)
    (isLess : fewer ≤ more)
    (isLater : now.IsBack fewer unit later)
    (isEarlier : now.IsBack more unit earlier) :
    earlier.nanosSinceEpoch ≤ later.nanosSinceEpoch := by
  have isOrdinaryLater := isLater.isOrdinary isOrdinary
  have isOrdinaryEarlier := isEarlier.isOrdinary isOrdinary
  cases isLater with
  | @fixed _ seconds _ isFixed _ isExact =>
      cases isEarlier with
      | fixed isFixedToo _ isExactToo =>
          cases isFixed.symm.trans isFixedToo
          have isLonger : fewer * seconds * nanosPerSecond ≤ more * seconds * nanosPerSecond :=
            Nat.mul_le_mul_right _ (Nat.mul_le_mul_right _ isLess)
          rw [isExact, isExactToo]
          exact Int.sub_le_sub_left (Int.ofNat_le.mpr isLonger) _
      | months => cases isFixed
  | months isMonth isDay sameSecond sameNanos =>
      cases isEarlier with
      | fixed isFixed => cases isFixed
      | months isMonthToo isDayToo sameSecondToo sameNanosToo =>
          apply Int.not_lt.mp
          intro isReversed
          have isBefore :=
            (isBefore_iff_nanosSinceEpoch_lt isOrdinaryLater isOrdinaryEarlier).mpr isReversed
          rcases isBefore_iff_date.mp isBefore with isEarlierDate | ⟨_, isEarlierTime⟩
          · rcases Date.isBefore_iff.mp isEarlierDate with isEarlierMonth | ⟨sameMonth, isLessDay⟩
            · omega
            · rw [sameMonth] at isDay
              omega
          · simp only [isBeforeInDay] at isEarlierTime
            omega

/-! ## Where a duration leads -/

/-- Units of one length lead to the exact instant if the calendar reaches it. -/
theorem earlier?_of_seconds? {seconds : Nat}
    (isOrdinary : now.isLeapSecond = false)
    (isInCalendar : now.IsInCalendar)
    (isFixed : unit.seconds? = some seconds)
    (amount : Nat) :
    ∃ exact : Instant,
      now.IsBack amount unit exact ∧
        now.earlier? amount unit = if exact.IsInCalendar then some exact else none := by
  have isPositive := TimeUnit.seconds_pos isFixed
  refine ⟨⟨now.seconds - (amount * seconds : Nat), now.nanos⟩, .fixed isFixed isOrdinary ?_, ?_⟩
  · simp only [nanosSinceEpoch]
    push_cast
    ring
  · simp only [earlier?, isFixed, durationOf?_eq amount isPositive, Option.bind_eq_bind]
    split
    · simp only [Option.bind_some, secondsEarlier?, isOrdinary, Bool.false_eq_true, false_and,
        if_false]
      rfl
    · -- The calendar is shorter than the longest duration.
      rename_i isLong
      rw [if_neg]
      · rfl
      · simp only [IsInCalendar, firstSecond, lastSecond, longestDuration] at *
        have isShort : (Calendar.daysBeforeYear (Calendar.lastYear + 1) - epochDay) *
            secondsPerDay - 1 - (Calendar.daysBeforeYear Calendar.firstYear - epochDay) *
              secondsPerDay < 9223372036854775 := by decide
        omega

/-- Months lead to the same time of day in the month if the calendar has the month. -/
theorem earlier?_month
    (isInCalendar : now.IsInCalendar)
    (amount : Nat) :
    ∃ exact : Instant,
      now.IsBack amount .month exact ∧
        now.earlier? amount .month = if exact.IsInCalendar then some exact else none := by
  obtain ⟨exact, isDate, sameSecond, sameNanos, isTaken⟩ :=
    now.onDate?_eq (now.isProper_date.addMonths (-amount))
  have isMonth : exact.date.month = now.date.month - amount := by
    rw [isDate]
    exact (Int.sub_eq_add_neg).symm
  refine ⟨exact, .months isMonth ?_ sameSecond sameNanos, ?_⟩
  · rw [isDate]
    rfl
  · simp only [earlier?, TimeUnit.seconds?, monthsEarlier?, monthsOf?_eq, Option.bind_eq_bind]
    split
    · exact isTaken
    · -- The calendar has fewer months than dates may be moved by.
      rename_i isLong
      rw [if_neg]
      · rfl
      · rw [isInCalendar_iff_date, Date.isInCalendar_iff] at isInCalendar ⊢
        simp only [Date.year, isMonth, Calendar.firstYear, Calendar.lastYear] at isInCalendar ⊢
        simp only [mostMonths] at isLong
        omega

/-- Every amount of a unit leads to the exact instant if the calendar reaches it. -/
theorem earlier?_eq
    (isOrdinary : now.isLeapSecond = false)
    (isInCalendar : now.IsInCalendar)
    (amount : Nat)
    (unit : TimeUnit) :
    ∃ exact : Instant,
      now.IsBack amount unit exact ∧
        now.earlier? amount unit = if exact.IsInCalendar then some exact else none := by
  cases isFixed : unit.seconds? with
  | some seconds => exact earlier?_of_seconds? isOrdinary isInCalendar isFixed amount
  | none =>
      obtain rfl := TimeUnit.eq_month_of_seconds? isFixed
      exact earlier?_month isInCalendar amount

end Instant

/--
A duration leads to the one instant that is exactly so long before now, if the
calendar reaches it, and to none otherwise.  So a shorter duration leads to an
instant whenever a longer one does, and that instant is between the two.
-/
theorem TimeSpec.resolve?_ago {now : Instant}
    (isOrdinary : now.isLeapSecond = false)
    (isInCalendar : now.IsInCalendar)
    (unit : TimeUnit) :
    (∀ amount : UInt64,
      ∃ exact : Instant,
        now.IsBack amount.toNat unit exact ∧
          (∀ other, now.IsBack amount.toNat unit other → other = exact) ∧
            (ago amount unit).resolve? now =
              if exact.IsInCalendar then some exact else none) ∧
      ∀ (fewer more : UInt64) (earlier : Instant),
        fewer ≤ more → (ago more unit).resolve? now = some earlier →
          ∃ later,
            (ago fewer unit).resolve? now = some later ∧
              earlier.nanosSinceEpoch ≤ later.nanosSinceEpoch ∧
                later.nanosSinceEpoch ≤ now.nanosSinceEpoch := by
  constructor
  · intro amount
    obtain ⟨exact, isBack, isResolved⟩ :=
      Instant.earlier?_eq isOrdinary isInCalendar amount.toNat unit
    exact ⟨exact, isBack, fun other isBackToo => isBackToo.unique isBack, isResolved⟩
  · intro fewer more earlier isLess isResolved
    obtain ⟨earlier', isEarlier, isEarlierResolved⟩ :=
      Instant.earlier?_eq isOrdinary isInCalendar more.toNat unit
    obtain ⟨later, isLater, isLaterResolved⟩ :=
      Instant.earlier?_eq isOrdinary isInCalendar fewer.toNat unit
    have isFound := isEarlierResolved.symm.trans isResolved
    obtain ⟨isReached, rfl⟩ : earlier'.IsInCalendar ∧ earlier' = earlier := by
      simpa using isFound
    have isBetween := Instant.IsBack.antitone isOrdinary (UInt64.le_iff_toNat_le.mp isLess)
      isLater isEarlier
    have isPast := Instant.IsBack.antitone isOrdinary (Nat.zero_le fewer.toNat)
      (Instant.isBack_zero isOrdinary) isLater
    have isReachedToo : later.IsInCalendar := by
      have isAfterFirst := Instant.seconds_le_of_nanosSinceEpoch_le
        (isLater.isOrdinary isOrdinary) isBetween
      have isBeforeLast := Instant.seconds_le_of_nanosSinceEpoch_le isOrdinary isPast
      exact ⟨isReached.1.trans isAfterFirst, isBeforeLast.trans isInCalendar.2⟩
    rw [if_pos isReachedToo] at isLaterResolved
    exact ⟨later, isLaterResolved, isBetween, isPast⟩

/-- A month before the last of March of a leap year is the last of February. -/
theorem TimeSpec.resolve?_ago_endOfMarch :
    (Instant.mk 1711886400 0).isLeapSecond = false ∧ (Instant.mk 1711886400 0).IsInCalendar ∧
      (ago 1 .month).resolve? ⟨1711886400, 0⟩ = some ⟨1709208000, 0⟩ ∧
        ∃ later,
          (ago 0 .month).resolve? ⟨1711886400, 0⟩ = some later ∧
            (Instant.mk 1709208000 0).nanosSinceEpoch ≤ later.nanosSinceEpoch ∧
              later.nanosSinceEpoch ≤ (Instant.mk 1711886400 0).nanosSinceEpoch := by
  have isOrdinary : (Instant.mk 1711886400 0).isLeapSecond = false := rfl
  have isInCalendar : (Instant.mk 1711886400 0).IsInCalendar := by decide
  have isResolved : (ago 1 .month).resolve? ⟨1711886400, 0⟩ = some ⟨1709208000, 0⟩ := by
    decide +kernel
  exact ⟨isOrdinary, isInCalendar, isResolved,
    (resolve?_ago isOrdinary isInCalendar .month).2 0 1 _ (by decide) isResolved⟩

end EventQuery
