import EventQuery.Time.Spec
import EventQuery.Time.Timestamp

/-!
# Resolving points in time

A point in time that a query names becomes an instant once it is known when
the query runs.  There is none where the calendar does not reach.
-/

namespace EventQuery

/-- The greatest number of seconds that a duration may have. -/
def longestDuration : Nat := 9223372036854775

/-- The greatest number of months by which a date may be moved. -/
def mostMonths : Nat := 2147483647

/-- A number that 64 bits with a sign hold. -/
def inSignedRange? (value : Nat) : Option Nat :=
  if value ≤ Int64.maxValue.toInt then some value else none

/--
The duration of so many units of some seconds each.  The amount is held in 64
bits with a sign, and so is the product, before it becomes a duration.
-/
def durationOf? (amount seconds : Nat) : Option Nat := do
  let amount ← inSignedRange? amount
  let total ← inSignedRange? (amount * seconds)
  if total ≤ longestDuration then some total else none

/-- A duration is refused only for its length, however the length is come by. -/
theorem durationOf?_eq (amount : Nat) {seconds : Nat} (isPositive : 0 < seconds) :
    durationOf? amount seconds =
      if amount * seconds ≤ longestDuration then some (amount * seconds) else none := by
  have isLess : amount ≤ amount * seconds := Nat.le_mul_of_pos_right amount isPositive
  have isGreatest : Int64.maxValue.toInt = 9223372036854775807 := by decide
  have isShorter : longestDuration < 9223372036854775807 := by decide
  simp only [durationOf?, inSignedRange?, isGreatest, Option.bind_eq_bind]
  by_cases isShort : amount * seconds ≤ longestDuration
  · rw [if_pos (by omega), Option.bind_some, if_pos (by omega), Option.bind_some]
  · rw [if_neg isShort]
    split
    · rw [Option.bind_some]
      split
      · rw [Option.bind_some, if_neg isShort]
      · rfl
    · rfl

/--
A number of months by which a date may be moved.  It is held in 32 bits, and
the calendar takes one bit of them for the direction.
-/
def monthsOf? (amount : Nat) : Option Nat :=
  if amount < UInt32.size ∧ amount ≤ mostMonths then some amount else none

/-- A number of months is refused only if the calendar cannot take it. -/
theorem monthsOf?_eq (amount : Nat) :
    monthsOf? amount = if amount ≤ mostMonths then some amount else none := by
  have isWide : mostMonths < UInt32.size := by decide
  simp only [monthsOf?]
  congr 1
  simp only [eq_iff_iff, and_iff_right_iff_imp]
  omega

/-- The instant so many months earlier, on the same day or the last one of its month. -/
def Instant.monthsEarlier? (instant : Instant) (amount : Nat) : Option Instant := do
  let months ← monthsOf? amount
  instant.onDate? (instant.date.addMonths (-months))

/-- The instant so many units earlier. -/
def Instant.earlier?
    (instant : Instant)
    (amount : Nat)
    (unit : TimeUnit) :
    Option Instant :=
  match unit.seconds? with
  | some seconds => do
      let total ← durationOf? amount seconds
      instant.secondsEarlier? total
  | none => instant.monthsEarlier? amount

/-- The instant of a named point. -/
def Anchor.resolve? (anchor : Anchor) (now : Instant) : Option Instant :=
  match anchor with
  | .today => some now.midnight
  | .yesterday => now.midnight.secondsEarlier? secondsPerDay
  | .now => some now

/-- The instant of a point in time, for a query that runs now. -/
def TimeSpec.resolve? (spec : TimeSpec) (now : Instant) : Option Instant :=
  match spec with
  | ago amount unit => now.earlier? amount.toNat unit
  | anchor point => point.resolve? now
  | timestamp text => Timestamp.instant? text

end EventQuery
