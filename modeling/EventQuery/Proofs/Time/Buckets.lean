import EventQuery.Proofs.Time.Instant
import EventQuery.Time.Buckets
import Mathlib.Algebra.Order.Floor.Div
import Mathlib.Tactic.Ring

/-!
# How far the buckets of a time series reach

Buckets of seconds up to weeks are laid end to end from the start of a window.
Their number is counted from the whole seconds of the window, so the last bucket
always starts before the end, and reaches the end unless a fraction of a second is
left over behind buckets that fill the whole seconds exactly.
-/

namespace EventQuery

namespace Instant

/-- A window outside leap seconds is its whole seconds and a proper fraction of one. -/
theorem exists_fraction {start finish : Instant}
    (startIsOrdinary : start.isLeapSecond = false)
    (finishIsOrdinary : finish.isLeapSecond = false)
    (isBefore : start.isBefore finish = true) :
    ∃ fraction : Nat,
      fraction < nanosPerSecond ∧
        0 < (start.secondsUntil finish).natAbs * nanosPerSecond + fraction ∧
        finish.nanosSinceEpoch =
          start.nanosSinceEpoch +
            ((start.secondsUntil finish).natAbs * nanosPerSecond + fraction : Nat) := by
  have isEarlier :=
    (isBefore_iff_nanosSinceEpoch_lt startIsOrdinary finishIsOrdinary).mp isBefore
  obtain ⟨window, isWindow⟩ :=
    Int.eq_ofNat_of_zero_le (a := finish.nanosSinceEpoch - start.nanosSinceEpoch) (by omega)
  have whole : (start.secondsUntil finish).natAbs = window / nanosPerSecond := by
    rw [secondsUntil, nanosUntil_eq_sub startIsOrdinary finishIsOrdinary, isWindow]
    rfl
  have isSplit : window / nanosPerSecond * nanosPerSecond + window % nanosPerSecond = window :=
    Nat.div_add_mod' window nanosPerSecond
  refine ⟨window % nanosPerSecond, Nat.mod_lt _ (by decide), ?_, ?_⟩
  · rw [whole, isSplit]
    omega
  · rw [whole, isSplit]
    omega

end Instant

namespace Buckets

theorem quotientUp_eq_ceilDiv (dividend divisor : Nat) :
    quotientUp dividend divisor = dividend ⌈/⌉ divisor :=
  (Nat.ceilDiv_eq_add_pred_div dividend divisor).symm

/-- The count is the least positive number of buckets that hold the whole seconds. -/
theorem countSeconds_le_iff {interval : Nat}
    (isPositive : 0 < interval)
    (start finish : Instant)
    (buckets : Nat) :
    countSeconds interval start finish ≤ buckets ↔
      0 < buckets ∧ (start.secondsUntil finish).natAbs ≤ interval * buckets := by
  rw [countSeconds, quotientUp_eq_ceilDiv, Nat.max_le, ceilDiv_le_iff_le_mul isPositive]
  rfl

theorem countSeconds_pos (interval : Nat) (start finish : Instant) :
    0 < countSeconds interval start finish :=
  Nat.le_max_left 1 _

/-- The buckets hold all whole seconds of the window. -/
theorem le_mul_countSeconds {interval : Nat}
    (isPositive : 0 < interval)
    (start finish : Instant) :
    (start.secondsUntil finish).natAbs ≤ interval * countSeconds interval start finish :=
  ((countSeconds_le_iff isPositive start finish _).mp (Nat.le_refl _)).2

/-- The last bucket starts before the whole seconds end, or is the only one. -/
theorem mul_countSeconds_sub_one_lt {interval : Nat}
    (isPositive : 0 < interval)
    (start finish : Instant) :
    countSeconds interval start finish = 1 ∨
      interval * (countSeconds interval start finish - 1) <
        (start.secondsUntil finish).natAbs := by
  have isSome := countSeconds_pos interval start finish
  rcases Nat.eq_or_lt_of_le isSome with isOne | isMore
  · exact .inl isOne.symm
  · refine .inr (Nat.lt_of_not_le fun isEnough => ?_)
    have isLess :=
      (countSeconds_le_iff isPositive start finish
        (countSeconds interval start finish - 1)).mpr ⟨by omega, isEnough⟩
    omega

/-- The buckets end with the whole seconds exactly if the seconds are a multiple of one. -/
theorem mul_countSeconds_eq_iff {interval : Nat}
    (isPositive : 0 < interval)
    (start finish : Instant) :
    interval * countSeconds interval start finish = (start.secondsUntil finish).natAbs ↔
      0 < (start.secondsUntil finish).natAbs ∧
        interval ∣ (start.secondsUntil finish).natAbs := by
  have isSome := countSeconds_pos interval start finish
  constructor
  · intro isExact
    rw [← isExact]
    exact ⟨Nat.mul_pos isPositive isSome, Nat.dvd_mul_right _ _⟩
  · rintro ⟨isLong, buckets, isMultiple⟩
    have isAny : 0 < buckets := by
      rw [isMultiple] at isLong
      exact Nat.pos_of_mul_pos_left isLong
    have isFew : countSeconds interval start finish ≤ buckets :=
      (countSeconds_le_iff isPositive start finish buckets).mpr
        ⟨isAny, Nat.le_of_eq isMultiple⟩
    apply Nat.le_antisymm
    · rw [isMultiple]
      exact Nat.mul_le_mul_left interval isFew
    · exact le_mul_countSeconds isPositive start finish

end Buckets

/-- Buckets of a fixed unit are counted if the window and they are not empty and they fit. -/
theorem Bucketing.count?_every_eq_some_iff {unit : TimeUnit} {seconds : Nat}
    (isFixed : unit.seconds? = some seconds)
    (amount : UInt64)
    (start finish : Instant)
    (count : Nat) :
    (every amount unit).count? start finish = some count ↔
      start.isBefore finish = true ∧ amount ≠ 0 ∧
        amount.toNat * seconds < UInt64.size ∧
          Buckets.countSeconds (amount.toNat * seconds) start finish = count := by
  simp only [count?, isFixed]
  split
  · rename_i isCounted
    split
    · rename_i isSmall
      simp [isCounted, isSmall]
    · rename_i isLarge
      simp [isLarge]
  · rename_i isEmpty
    constructor
    · nofun
    · rintro ⟨isBefore, isAny, _⟩
      exact absurd ⟨isBefore, isAny⟩ isEmpty

/--
Whether some whole intervals and a proper fraction of a second make up a window of
so many nanoseconds.
-/
def Buckets.LeavesFraction (interval : Nat) (window : Int) : Prop :=
  ∃ buckets fraction : Nat,
    0 < buckets ∧ 0 < fraction ∧ fraction < nanosPerSecond ∧
      window = (interval * buckets * nanosPerSecond + fraction : Nat)

/-- A window leaves a fraction exactly if its whole seconds are some whole intervals. -/
theorem Buckets.leavesFraction_iff {interval whole fraction : Nat}
    (isPositive : 0 < interval)
    (isFraction : fraction < nanosPerSecond) :
    LeavesFraction interval (whole * nanosPerSecond + fraction : Nat) ↔
      fraction ≠ 0 ∧ 0 < whole ∧ interval ∣ whole := by
  constructor
  · rintro ⟨buckets, left, isSome, isLeft, leftIsFraction, isWindow⟩
    have isBoth : whole = interval * buckets ∧ fraction = left := by
      simp only [nanosPerSecond] at *
      omega
    obtain ⟨rfl, rfl⟩ := isBoth
    exact ⟨Nat.ne_of_gt isLeft, Nat.mul_pos isPositive isSome, Nat.dvd_mul_right _ _⟩
  · rintro ⟨isLeft, isLong, buckets, rfl⟩
    refine ⟨buckets, fraction, ?_, Nat.pos_of_ne_zero isLeft, isFraction, rfl⟩
    exact Nat.pos_of_mul_pos_left isLong

/--
Buckets of a fixed unit, counted for a window outside leap seconds.  The last bucket
starts before the end of the window.  The buckets reach the end, unless the window
is made up of some whole intervals and a fraction of a second; then only the
fraction is left.
-/
theorem Bucketing.count?_every_reach {unit : TimeUnit} {seconds : Nat} {amount : UInt64}
    {start finish : Instant} {count : Nat}
    (isFixed : unit.seconds? = some seconds)
    (startIsOrdinary : start.isLeapSecond = false)
    (finishIsOrdinary : finish.isLeapSecond = false)
    (isCount : (every amount unit).count? start finish = some count) :
    start.nanosSinceEpoch + (count - 1) * (amount.toNat * seconds * nanosPerSecond) <
        finish.nanosSinceEpoch ∧
      finish.nanosSinceEpoch <
        start.nanosSinceEpoch + count * (amount.toNat * seconds * nanosPerSecond) +
          nanosPerSecond ∧
      (finish.nanosSinceEpoch ≤
          start.nanosSinceEpoch + count * (amount.toNat * seconds * nanosPerSecond) ↔
        ¬ Buckets.LeavesFraction (amount.toNat * seconds)
          (finish.nanosSinceEpoch - start.nanosSinceEpoch)) := by
  obtain ⟨isBefore, isAny, -, rfl⟩ :=
    (count?_every_eq_some_iff isFixed amount start finish count).mp isCount
  have isPositive : 0 < amount.toNat * seconds := by
    apply Nat.mul_pos
    · exact Nat.pos_of_ne_zero fun isZero => isAny (UInt64.toNat_inj.mp isZero)
    · exact TimeUnit.seconds_pos isFixed
  obtain ⟨fraction, isFraction, isWindow, isFinish⟩ :=
    Instant.exists_fraction startIsOrdinary finishIsOrdinary isBefore
  have isEnough := Buckets.le_mul_countSeconds isPositive start finish
  have isLeast := Buckets.mul_countSeconds_sub_one_lt isPositive start finish
  have isExact := Buckets.mul_countSeconds_eq_iff isPositive start finish
  have isSome := Buckets.countSeconds_pos (amount.toNat * seconds) start finish
  generalize (start.secondsUntil finish).natAbs = whole at *
  generalize Buckets.countSeconds (amount.toNat * seconds) start finish = count at *
  generalize isInterval : amount.toNat * seconds = interval at *
  have reach (buckets : Nat) :
      (buckets : Int) * (amount.toNat * seconds * nanosPerSecond) =
        (interval * buckets * nanosPerSecond : Nat) := by
    rw [← isInterval]
    push_cast
    ring
  have shorter : (count : Int) - 1 = (count - 1 : Nat) := by omega
  rw [shorter, reach, reach, isFinish, add_sub_cancel_left,
    Buckets.leavesFraction_iff isPositive isFraction, ← isExact]
  simp only [nanosPerSecond] at *
  refine ⟨?_, by omega, by omega⟩
  rcases isLeast with rfl | isLess
  · simp only [Nat.sub_self, Nat.mul_zero, Nat.zero_mul]
    omega
  · omega

/-- The fourth bucket of seven hours reaches the end of one day. -/
theorem Bucketing.count?_every_reach_sevenHours :
    (every 7 .hour).count? ⟨0, 0⟩ ⟨86400, 0⟩ = some 4 ∧
      (Instant.mk 86400 0).nanosSinceEpoch ≤
        (Instant.mk 0 0).nanosSinceEpoch +
          (4 : Nat) * ((7 : UInt64).toNat * (3600 : Nat) * nanosPerSecond) := by
  have isCount : (every 7 .hour).count? ⟨0, 0⟩ ⟨86400, 0⟩ = some 4 := by decide +kernel
  refine ⟨isCount, ?_⟩
  apply (count?_every_reach rfl rfl rfl isCount).2.2.mpr
  rintro ⟨buckets, fraction, _, isLeft, isFraction, isWindow⟩
  simp [Instant.nanosSinceEpoch, nanosPerSecond] at isWindow isFraction
  omega

/-- Ten and a half seconds get one bucket of ten seconds, which ends before they do. -/
theorem Bucketing.not_count?_every_covers_halfSecond :
    (every 10 .second).count? ⟨0, 0⟩ ⟨10, 500000000⟩ = some 1 ∧
      ¬ (Instant.mk 10 500000000).nanosSinceEpoch ≤
        (Instant.mk 0 0).nanosSinceEpoch +
          (1 : Nat) * ((10 : UInt64).toNat * (1 : Nat) * nanosPerSecond) := by
  decide +kernel

end EventQuery
