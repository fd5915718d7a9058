import EventQuery.Proofs.Time.Instant
import EventQuery.Time.Buckets
import Mathlib.Order.Nat

/-!
# How many buckets of months a window takes

Buckets of months are laid one after the other.  After a short month the days of
the boundaries stay early, so a boundary can fall short of the one that is found
by adding all months at once, but it is in the same month.  So one bucket more
than by adding at once is the most that it takes, and none more if the window
starts on a day that every month has: `count?_month`.
-/

namespace EventQuery

namespace Instant

/-! ## Adding months -/

/--
The same time of day so many months later, on the same day or the last one of
the month, if the calendar reaches it.
-/
def monthsLater? (instant : Instant) (months : Nat) : Option Instant :=
  instant.onDate? (instant.date.addMonths months)

/-- The months added a number of times, one after the other. -/
def monthStepsLater? (instant : Instant) (months : Nat) : Nat → Option Instant
  | 0 => some instant
  | steps + 1 => do
      let next ← instant.monthsLater? months
      next.monthStepsLater? months steps

/-- Whether the instant, if there is one, is at the end of a window or after it. -/
def Reaches (finish : Instant) (instant? : Option Instant) : Prop :=
  ∃ instant, instant? = some instant ∧ instant.isBefore finish = false

/-- Two instants at one time of day. -/
structure SameTime (first second : Instant) : Prop where
  secondOfDay : first.secondOfDay = second.secondOfDay
  nanos : first.nanos = second.nanos

theorem SameTime.trans {first second third : Instant}
    (isSame : first.SameTime second)
    (isSameToo : second.SameTime third) :
    first.SameTime third :=
  ⟨isSame.secondOfDay.trans isSameToo.secondOfDay, isSame.nanos.trans isSameToo.nanos⟩

theorem SameTime.symm {first second : Instant} (isSame : first.SameTime second) :
    second.SameTime first :=
  ⟨isSame.secondOfDay.symm, isSame.nanos.symm⟩

theorem SameTime.isBeforeInDay_iff {first second : Instant}
    (sameTime : first.SameTime second)
    (finish : Instant) :
    first.isBeforeInDay finish ↔ second.isBeforeInDay finish := by
  rw [isBeforeInDay, isBeforeInDay, sameTime.secondOfDay, sameTime.nanos]

/-- Adding months keeps the time of day and fails where the calendar ends. -/
theorem monthsLater?_eq (instant : Instant) (months : Nat) :
    ∃ later : Instant,
      later.date = instant.date.addMonths months ∧ later.SameTime instant ∧
        instant.monthsLater? months = if later.IsInCalendar then some later else none := by
  obtain ⟨later, isDate, sameSecond, sameNanos, isTaken⟩ :=
    instant.onDate?_eq (instant.isProper_date.addMonths months)
  exact ⟨later, isDate, ⟨sameSecond, sameNanos⟩, isTaken⟩

theorem monthsLater?_eq_some {instant later : Instant} {months : Nat}
    (isLater : instant.monthsLater? months = some later) :
    later.date = instant.date.addMonths months ∧ later.SameTime instant ∧
      later.IsInCalendar := by
  obtain ⟨moved, isDate, sameTime, isTaken⟩ := instant.monthsLater?_eq months
  have isFound := isTaken.symm.trans isLater
  obtain ⟨isReached, rfl⟩ : moved.IsInCalendar ∧ moved = later := by
    simpa using isFound
  exact ⟨isDate, sameTime, isReached⟩

theorem exists_monthsLater? {instant : Instant} {months : Nat}
    (isInCalendar : (instant.date.addMonths months).isInCalendar = true) :
    ∃ later,
      instant.monthsLater? months = some later ∧
        later.date = instant.date.addMonths months ∧ later.SameTime instant := by
  obtain ⟨later, isDate, sameTime, isTaken⟩ := instant.monthsLater?_eq months
  have isReached : later.IsInCalendar := by rwa [isInCalendar_iff_date, isDate]
  exact ⟨later, by rw [isTaken, if_pos isReached], isDate, sameTime⟩

theorem monthsLater?_eq_none {instant : Instant} {months : Nat}
    (isOutside : ¬ (instant.date.addMonths months).isInCalendar = true) :
    instant.monthsLater? months = none :=
  if_neg isOutside

/-- At one time of day the earlier date is before everything that the later one is before. -/
theorem isBefore_of_date {first second finish : Instant}
    (sameTime : first.SameTime second)
    (isNotLater : ¬ second.date.isBefore first.date = true)
    (isBefore : second.isBefore finish = true) :
    first.isBefore finish = true := by
  rw [isBefore_iff_date] at isBefore ⊢
  rcases Date.isBefore_or_eq_or_isBefore first.date second.date with isEarlier | sameDate | isLater
  · left
    rcases isBefore with isEarlierToo | ⟨sameDate, -⟩
    · exact Date.isBefore_trans isEarlier isEarlierToo
    · exact sameDate ▸ isEarlier
  · rwa [sameDate, sameTime.isBeforeInDay_iff]
  · exact absurd isLater isNotLater

/-- At one time of day a date that is no earlier reaches all that the other one reaches. -/
theorem isBefore_eq_false_of_date {first second finish : Instant}
    (sameTime : first.SameTime second)
    (isNotEarlier : ¬ second.date.isBefore first.date = true)
    (isReached : first.isBefore finish = false) :
    second.isBefore finish = false := by
  rw [Bool.eq_false_iff] at isReached ⊢
  exact mt (isBefore_of_date sameTime isNotEarlier) isReached

/-! ## Adding months again and again -/

/--
Where a number of additions lead: into the month that is so many later, to the
same time of day, and to a day that is no later than the first.
-/
structure IsStepped (start : Instant) (months steps : Nat) (cursor : Instant) : Prop where
  month : cursor.date.month = start.date.month + (steps * months : Nat)
  sameTime : cursor.SameTime start
  day_le : cursor.date.day ≤ start.date.day
  /-- A day that every month has is kept. -/
  day_eq : start.date.day ≤ 28 → cursor.date.day = start.date.day

theorem IsStepped.zero (start : Instant) (months : Nat) : start.IsStepped months 0 start where
  month := by simp
  sameTime := ⟨rfl, rfl⟩
  day_le := Nat.le_refl _
  day_eq := fun _ => rfl

/-- One more addition in front. -/
theorem IsStepped.succ {start next cursor : Instant} {months steps : Nat}
    (isNext : start.monthsLater? months = some next)
    (isStepped : next.IsStepped months steps cursor) :
    start.IsStepped months (steps + 1) cursor := by
  obtain ⟨isDate, sameTime, -⟩ := monthsLater?_eq_some isNext
  have isLong := Date.le_monthLength (start.date.month + months)
  have isMonth : next.date.month = start.date.month + months := by rw [isDate, Date.addMonths]
  have isDay :
      next.date.day = min start.date.day (Date.monthLength (start.date.month + months)) := by
    rw [isDate, Date.addMonths]
  refine ⟨?_, isStepped.sameTime.trans sameTime, ?_, ?_⟩
  · rw [isStepped.month, isMonth, Nat.succ_mul]
    omega
  · exact isStepped.day_le.trans (isDay ▸ Nat.min_le_left _ _)
  · intro isEarly
    rw [isStepped.day_eq (by omega)]
    omega

theorem isStepped_of_monthStepsLater? {start cursor : Instant} {months steps : Nat}
    (isCursor : start.monthStepsLater? months steps = some cursor) :
    start.IsStepped months steps cursor := by
  induction steps generalizing start with
  | zero =>
      cases isCursor
      exact .zero _ months
  | succ steps ih =>
      obtain ⟨next, isNext, isCursor⟩ := Option.bind_eq_some_iff.mp isCursor
      exact .succ isNext (ih isCursor)

theorem isInCalendar_of_monthStepsLater? {start cursor : Instant} {months steps : Nat}
    (isCursor : start.monthStepsLater? months (steps + 1) = some cursor) :
    cursor.IsInCalendar := by
  induction steps generalizing start with
  | zero =>
      obtain ⟨next, isNext, isCursor⟩ := Option.bind_eq_some_iff.mp isCursor
      cases isCursor
      exact (monthsLater?_eq_some isNext).2.2
  | succ steps ih =>
      obtain ⟨next, isNext, isCursor⟩ := Option.bind_eq_some_iff.mp isCursor
      exact ih isCursor

/-- Where some additions lead, fewer lead somewhere too. -/
theorem exists_of_monthStepsLater? {start cursor : Instant} {months steps fewer : Nat}
    (isCursor : start.monthStepsLater? months steps = some cursor)
    (isFewer : fewer ≤ steps) :
    ∃ earlier, start.monthStepsLater? months fewer = some earlier := by
  induction steps generalizing start fewer with
  | zero =>
      obtain rfl := Nat.le_zero.mp isFewer
      exact ⟨start, rfl⟩
  | succ steps ih =>
      cases fewer with
      | zero => exact ⟨start, rfl⟩
      | succ fewer =>
          obtain ⟨next, isNext, isCursor⟩ := Option.bind_eq_some_iff.mp isCursor
          obtain ⟨earlier, isEarlier⟩ := ih isCursor (Nat.le_of_succ_le_succ isFewer)
          exact ⟨earlier, Option.bind_eq_some_iff.mpr ⟨next, isNext, isEarlier⟩⟩

/--
Adding all months at once leads into the same month as adding them step by step,
to a day that is no earlier, and to the same day if every month has it.
-/
theorem compare_of_monthStepsLater? {start cursor single : Instant} {months steps : Nat}
    (isCursor : start.monthStepsLater? months steps = some cursor)
    (isSingle : start.monthsLater? (steps * months) = some single) :
    cursor.SameTime single ∧ ¬ single.date.isBefore cursor.date = true ∧
      (start.date.day ≤ 28 → cursor.date = single.date) := by
  have isStepped := isStepped_of_monthStepsLater? isCursor
  have isProper := cursor.isProper_date.day_le
  obtain ⟨isDate, sameTime, -⟩ := monthsLater?_eq_some isSingle
  have sameMonth : single.date.month = cursor.date.month := by
    rw [isStepped.month, isDate]
    rfl
  have isDay : single.date.day = min start.date.day (Date.monthLength cursor.date.month) := by
    rw [isStepped.month, isDate]
    rfl
  refine ⟨isStepped.sameTime.trans sameTime.symm, ?_, fun isEarly => ?_⟩
  · rw [Date.isBefore_iff, isDay, sameMonth]
    have isNotLater := isStepped.day_le
    omega
  · have isKept := isStepped.day_eq isEarly
    have isLong := Date.le_monthLength cursor.date.month
    have sameDay : cursor.date.day = single.date.day := by omega
    exact congrArg₂ Date.mk sameMonth.symm sameDay

/-- Where some additions lead, adding all their months at once leads somewhere too. -/
theorem exists_monthsLater?_of_monthStepsLater? {start cursor : Instant} {months steps : Nat}
    (isCursor : start.monthStepsLater? months (steps + 1) = some cursor) :
    ∃ single, start.monthsLater? ((steps + 1) * months) = some single := by
  have isReached := isInCalendar_of_monthStepsLater? isCursor
  have isMonth := (isStepped_of_monthStepsLater? isCursor).month
  rw [isInCalendar_iff_date, Date.isInCalendar_iff, Date.year, isMonth] at isReached
  obtain ⟨single, isSingle, -⟩ := exists_monthsLater? (Date.isInCalendar_iff.mpr isReached)
  exact ⟨single, isSingle⟩

/-- After enough additions, as long as the calendar reaches, the end is passed. -/
theorem isBefore_eq_false_of_monthStepsLater? {start cursor finish : Instant}
    {months steps : Nat}
    (isSome : 0 < months)
    (isEnough : finish.date.month < start.date.month + steps)
    (isCursor : start.monthStepsLater? months steps = some cursor) :
    cursor.isBefore finish = false := by
  have isMonth := (isStepped_of_monthStepsLater? isCursor).month
  have isFar : steps ≤ steps * months := Nat.le_mul_of_pos_right steps isSome
  rw [Bool.eq_false_iff]
  intro isBefore
  rcases isBefore_iff_date.mp isBefore with isEarlier | ⟨sameDate, -⟩
  · rcases Date.isBefore_iff.mp isEarlier with isEarlierMonth | ⟨sameMonth, -⟩ <;> omega
  · rw [sameDate] at isMonth
    omega

/-! ## The run of the loop -/

/--
Buckets of so many months laid one after the other from a place up to the end of
a window, as long as the calendar reaches: their number, if they reach the end.
-/
inductive Lays (months : Nat) (finish : Instant) : Instant → Option Nat → Prop where
  | reached {cursor : Instant}
      (isReached : cursor.isBefore finish = false) :
      Lays months finish cursor (some 0)
  | outside {cursor : Instant}
      (isBefore : cursor.isBefore finish = true)
      (isOutside : cursor.monthsLater? months = none) :
      Lays months finish cursor none
  | next {cursor next : Instant} {others : Option Nat}
      (isBefore : cursor.isBefore finish = true)
      (isNext : cursor.monthsLater? months = some next)
      (laysOthers : Lays months finish next others) :
      Lays months finish cursor (others.map (· + 1))

/-- The buckets that are laid are the least number that reaches the end. -/
theorem Lays.isLeast {months count : Nat} {start finish : Instant}
    (lays : Lays months finish start (some count)) :
    IsLeast {steps | Reaches finish (start.monthStepsLater? months steps)} count := by
  generalize isCount : some count = outcome at lays
  induction lays generalizing count with
  | @reached cursor isReached =>
      cases isCount
      exact ⟨⟨cursor, rfl, isReached⟩, fun _ _ => Nat.zero_le _⟩
  | outside => cases isCount
  | @next cursor next others isBefore isNext laysOthers ih =>
      obtain ⟨count, rfl, rfl⟩ := Option.map_eq_some_iff.mp isCount.symm
      obtain ⟨reaches, isLeast⟩ := ih rfl
      have stepsOn (steps : Nat) :
          cursor.monthStepsLater? months (steps + 1) = next.monthStepsLater? months steps := by
        simp [monthStepsLater?, isNext]
      refine ⟨?_, fun steps reachesToo => ?_⟩
      · rwa [Set.mem_ofPred_eq, stepsOn]
      · cases steps with
        | zero =>
            obtain ⟨_, isCursor, isReached⟩ := reachesToo
            cases isCursor
            exact absurd (isBefore.symm.trans isReached) Bool.noConfusion
        | succ steps =>
            rw [Set.mem_ofPred_eq, stepsOn] at reachesToo
            exact Nat.succ_le_succ (isLeast reachesToo)

/-- If the buckets cannot be laid up to the end, the calendar ends before the window does. -/
theorem Lays.exists_outside {months : Nat} {start finish : Instant}
    (lays : Lays months finish start none) :
    ∃ steps last,
      start.monthStepsLater? months steps = some last ∧ last.isBefore finish = true ∧
        last.monthsLater? months = none := by
  generalize isNone : none = outcome at lays
  induction lays with
  | reached => cases isNone
  | @outside cursor isBefore isOutside => exact ⟨0, cursor, rfl, isBefore, isOutside⟩
  | next isBefore isNext laysOthers ih =>
      obtain ⟨steps, last, isLast, isBeforeToo, isOutside⟩ :=
        ih (Option.map_eq_none_iff.mp isNone.symm).symm
      exact ⟨steps + 1, last, Option.bind_eq_some_iff.mpr ⟨_, isNext, isLast⟩, isBeforeToo,
        isOutside⟩

end Instant

namespace Buckets

open Instant

/-- Whether a place is before the end is told by its date and by its time of day. -/
theorem isBefore_iff_passes {passes : Bool} {date : Date} {cursor finish : Instant}
    (isDate : cursor.date = date)
    (isPassing : passes = true ↔ cursor.isBeforeInDay finish) :
    cursor.isBefore finish = true ↔
      date.isBefore finish.date = true ∨ date = finish.date ∧ passes = true := by
  rw [isBefore_iff_date, isDate, isPassing]

/-- The count goes on from a place in the window as laying buckets from there does. -/
theorem exists_lays_layMonths {amount : Nat} {passes : Bool} {date : Date} {laid : Nat}
    {cursor finish : Instant}
    (isDate : cursor.date = date)
    (isPassing : passes = true ↔ cursor.isBeforeInDay finish) :
    ∃ outcome,
      Lays (amount + 1) finish cursor outcome ∧
        layMonths amount passes finish.date date laid = outcome.map (· + laid) := by
  fun_induction layMonths amount passes finish.date date laid generalizing cursor with
  | case1 date laid isOn =>
      rename_i isIn ih
      subst isDate
      have isBefore := (isBefore_iff_passes rfl isPassing).mpr isOn
      obtain ⟨next, isNext, isNextDate, sameTime⟩ := exists_monthsLater? isIn
      have isPassingToo := isPassing.trans (sameTime.isBeforeInDay_iff finish).symm
      obtain ⟨others, laysOthers, isCount⟩ := ih isNextDate isPassingToo
      refine ⟨others.map (· + 1), .next isBefore isNext laysOthers, ?_⟩
      rw [isCount, Option.map_map]
      congr 1
      funext count
      exact (Nat.succ_add_eq_add_succ count laid).symm
  | case2 date laid isOn =>
      rename_i isOut
      subst isDate
      have isBefore := (isBefore_iff_passes rfl isPassing).mpr isOn
      exact ⟨none, .outside isBefore (monthsLater?_eq_none isOut), rfl⟩
  | case3 date laid isOff =>
      have isNotBefore := mt (isBefore_iff_passes isDate isPassing).mp isOff
      exact ⟨some 0, .reached (Bool.eq_false_iff.mpr isNotBefore),
        congrArg some (Nat.zero_add laid).symm⟩

/-- The count of buckets of months is what laying them from the start is. -/
theorem lays_countMonths {amount : Nat} {start finish : Instant}
    (isSome : 0 < amount)
    (isMovable : amount ≤ mostMonths) :
    Lays amount finish start (countMonths amount start finish) := by
  have isMonths : monthsOf? amount = some amount := by rw [monthsOf?_eq, if_pos isMovable]
  obtain ⟨outcome, lays, isCount⟩ :=
    @exists_lays_layMonths (amount - 1)
      (start.secondOfDay < finish.secondOfDay ||
        start.secondOfDay == finish.secondOfDay && start.nanos < finish.nanos)
      start.date 0 start finish rfl (by simp [isBeforeInDay])
  rw [Nat.sub_add_cancel isSome] at lays
  have isAll : countMonths amount start finish = outcome := by
    rw [countMonths, isMonths]
    exact isCount.trans Option.map_id'
  rwa [isAll]

end Buckets

open Instant

variable {start finish : Instant}

/-- Adding all months at once reaches the end where adding them step by step does. -/
theorem Instant.reaches_monthsLater? {months steps : Nat}
    (isBefore : start.isBefore finish = true)
    (reaches : Reaches finish (start.monthStepsLater? months steps)) :
    Reaches finish (start.monthsLater? (steps * months)) := by
  obtain ⟨cursor, isCursor, isReached⟩ := reaches
  cases steps with
  | zero =>
      cases isCursor
      exact absurd (isBefore.symm.trans isReached) Bool.noConfusion
  | succ steps =>
      obtain ⟨single, isSingle⟩ := exists_monthsLater?_of_monthStepsLater? isCursor
      obtain ⟨sameTime, isNotEarlier, -⟩ := compare_of_monthStepsLater? isCursor isSingle
      exact ⟨single, isSingle, isBefore_eq_false_of_date sameTime isNotEarlier isReached⟩

/--
Adding months step by step is behind adding them at once by less than one more
addition.
-/
theorem Instant.isBefore_of_reaches_monthsLater? {months steps : Nat} {cursor : Instant}
    (isSome : 0 < months)
    (reaches : Reaches finish (start.monthsLater? (steps * months)))
    (isCursor : start.monthStepsLater? months (steps + 1) = some cursor) :
    cursor.isBefore finish = false := by
  obtain ⟨single, isSingle, isReached⟩ := reaches
  obtain ⟨isDate, sameTime, -⟩ := monthsLater?_eq_some isSingle
  have isStepped := isStepped_of_monthStepsLater? isCursor
  have isMonth : single.date.month = start.date.month + (steps * months : Nat) := by
    rw [isDate, Date.addMonths]
  have isNotEarlier : ¬ cursor.date.isBefore single.date = true := by
    rw [Date.isBefore_iff, isStepped.month, isMonth, Nat.succ_mul]
    omega
  exact isBefore_eq_false_of_date (sameTime.trans isStepped.sameTime.symm) isNotEarlier isReached

/--
From a day that every month has, adding months step by step reaches the end where
adding them at once does.
-/
theorem Instant.isBefore_of_reaches_of_isEarly {months steps : Nat} {cursor : Instant}
    (isEarly : start.date.day ≤ 28)
    (reaches : Reaches finish (start.monthsLater? (steps * months)))
    (isCursor : start.monthStepsLater? months steps = some cursor) :
    cursor.isBefore finish = false := by
  obtain ⟨single, isSingle, isReached⟩ := reaches
  obtain ⟨sameTime, -, sameDate⟩ := compare_of_monthStepsLater? isCursor isSingle
  have isNotEarlier : ¬ cursor.date.isBefore single.date = true := by
    rw [sameDate isEarly, Date.isBefore_iff]
    omega
  exact isBefore_eq_false_of_date sameTime.symm isNotEarlier isReached

/--
The least number of additions at once that reach the end is the least number step
by step or one less, and the same from a day that every month has.
-/
theorem Instant.exists_isLeast_monthsLater? {months count : Nat}
    (isSome : 0 < months)
    (isBefore : start.isBefore finish = true)
    (isLeast : IsLeast {steps | Reaches finish (start.monthStepsLater? months steps)} count) :
    ∃ single,
      IsLeast {steps | Reaches finish (start.monthsLater? (steps * months))} single ∧
        single ≤ count ∧ count ≤ single + 1 ∧ (start.date.day ≤ 28 → count = single) := by
  classical
  have reaches : ∃ steps, Reaches finish (start.monthsLater? (steps * months)) :=
    ⟨count, reaches_monthsLater? isBefore isLeast.1⟩
  have isLeastSingle := Nat.isLeast_find reaches
  have isFewer := isLeastSingle.2 (reaches_monthsLater? isBefore isLeast.1)
  obtain ⟨last, isLast, -⟩ := isLeast.1
  refine ⟨Nat.find reaches, isLeastSingle, isFewer, ?_, fun isEarly => ?_⟩
  · apply Nat.le_of_not_lt
    intro isMore
    obtain ⟨cursor, isCursor⟩ := exists_of_monthStepsLater? isLast (Nat.le_of_lt isMore)
    have isReached := isBefore_of_reaches_monthsLater? isSome isLeastSingle.1 isCursor
    exact Nat.not_lt.mpr (isLeast.2 ⟨cursor, isCursor, isReached⟩) isMore
  · obtain ⟨cursor, isCursor⟩ := exists_of_monthStepsLater? isLast isFewer
    have isReached := isBefore_of_reaches_of_isEarly isEarly isLeastSingle.1 isCursor
    exact Nat.le_antisymm (isLeast.2 ⟨cursor, isCursor, isReached⟩) isFewer

/-- Buckets of months are counted as they are laid, if a date may be moved by so many. -/
theorem Bucketing.count?_month_eq {amount : UInt64}
    (isBefore : start.isBefore finish = true)
    (isAny : amount ≠ 0) :
    (every amount .month).count? start finish = Buckets.countMonths amount.toNat start finish :=
  if_pos ⟨isBefore, isAny⟩

/--
Buckets of months, counted for a window.  Laying them comes to an end.  Their
number is the least number of additions, one after the other, that reach the end
of the window.  Adding all months at once takes as many or one less, and as many
from a day that every month has.  There is no number only if a date cannot be moved
by so many months, or the calendar ends before the end of the window is reached.
-/
theorem Bucketing.count?_month {amount : UInt64}
    (isBefore : start.isBefore finish = true)
    (isAny : amount ≠ 0) :
    (∃ steps, ∀ cursor,
      start.monthStepsLater? amount.toNat steps = some cursor →
        cursor.isBefore finish = false) ∧
      (∀ count,
        (every amount .month).count? start finish = some count →
          IsLeast {steps | Reaches finish (start.monthStepsLater? amount.toNat steps)} count ∧
            ∃ single,
              IsLeast {steps | Reaches finish (start.monthsLater? (steps * amount.toNat))}
                  single ∧
                single ≤ count ∧ count ≤ single + 1 ∧
                  (start.date.day ≤ 28 → count = single)) ∧
        ((every amount .month).count? start finish = none →
          mostMonths < amount.toNat ∨
            ∃ steps last,
              start.monthStepsLater? amount.toNat steps = some last ∧
                last.isBefore finish = true ∧ last.monthsLater? amount.toNat = none) := by
  have isSome : 0 < amount.toNat :=
    Nat.pos_of_ne_zero fun isZero => isAny (UInt64.toNat_inj.mp isZero)
  rw [count?_month_eq isBefore isAny]
  refine ⟨⟨(finish.date.month + 1 - start.date.month).toNat, fun cursor isCursor => ?_⟩,
    fun count isCount => ?_, fun isNone => ?_⟩
  · exact isBefore_eq_false_of_monthStepsLater? isSome (by omega) isCursor
  · have isMovable : amount.toNat ≤ mostMonths := by
      by_contra isTooMany
      rw [Buckets.countMonths, monthsOf?_eq, if_neg isTooMany] at isCount
      cases isCount
    have lays := @Buckets.lays_countMonths _ start finish isSome isMovable
    rw [isCount] at lays
    exact ⟨lays.isLeast, exists_isLeast_monthsLater? isSome isBefore lays.isLeast⟩
  · by_cases isMovable : amount.toNat ≤ mostMonths
    · have lays := @Buckets.lays_countMonths _ start finish isSome isMovable
      rw [isNone] at lays
      exact .inr lays.exists_outside
    · exact .inl (Nat.lt_of_not_le isMovable)

/--
From the last day of January to the last of April it takes four buckets, of which
the third ends on the 29th.
-/
theorem Bucketing.count?_month_endOfJanuary :
    (Instant.mk 1706659200 0).isBefore ⟨1714435200, 0⟩ = true ∧ (1 : UInt64) ≠ 0 ∧
      (every 1 .month).count? ⟨1706659200, 0⟩ ⟨1714435200, 0⟩ = some 4 ∧
        IsLeast
          {steps |
            Reaches ⟨1714435200, 0⟩
              ((Instant.mk 1706659200 0).monthStepsLater? (1 : UInt64).toNat steps)} 4 := by
  have isCount : (every 1 .month).count? ⟨1706659200, 0⟩ ⟨1714435200, 0⟩ = some 4 := by
    decide +kernel
  exact ⟨rfl, by decide, isCount, ((count?_month rfl (by decide)).2.1 4 isCount).1⟩

end EventQuery
