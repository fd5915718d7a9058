import EventQuery.Proofs.Decimal.Rounding

/-!
# Decimals that overflow

Infinity takes the place of the power of two behind the finite numbers, and its
rank is even.  So a decimal is rounded to infinity exactly if it is at least
halfway from the greatest finite number to that power, `2 ^ 1024 - 2 ^ 970`.
-/

namespace EventQuery.Decimal

/-- The least magnitude that is rounded to infinity, `2 ^ 1024 - 2 ^ 970`. -/
def overflowBound : Nat := twoTo 1024 - twoTo 970

theorem magnitude_strictMono {lower upper : Nat} (isLower : lower < upper) :
    magnitude lower < magnitude upper := by
  induction isLower with
  | refl => exact magnitude_lt_succ lower
  | step _ ih => exact Nat.lt_trans ih (magnitude_lt_succ _)

theorem magnitude_mono {lower upper : Nat} (isLower : lower ≤ upper) :
    magnitude lower ≤ magnitude upper := by
  rcases Nat.lt_or_eq_of_le isLower with isBelow | rfl
  · exact Nat.le_of_lt (magnitude_strictMono isBelow)
  · exact Nat.le_refl _

/-- A multiple of the least magnitude lies between two neighbouring magnitudes. -/
theorem magnitude_rankBelow_le_lt (multiple : Nat) :
    magnitude (rankBelow multiple) ≤ multiple ∧
      multiple < magnitude (rankBelow multiple + 1) := by
  have blockSize_eq : blockSize = 2 ^ 52 := rfl
  rcases Nat.lt_or_ge multiple blockSize with isLow | isHigh
  · have isItsRank : rankBelow multiple = multiple := by
      have reads := rankBelow_magnitude multiple
      rwa [magnitude_low isLow] at reads
    have isAtRank := magnitude_low isLow
    have isBelowNext := magnitude_lt_succ multiple
    rw [isItsRank]
    omega
  · have isPositive : multiple ≠ 0 := by
      have := blockSize_pos
      omega
    have isLong : 52 ≤ multiple.log2 := le_log2_of_twoTo_le isHigh
    obtain ⟨block, isBlock⟩ := Nat.exists_eq_add_of_le isLong
    have isFrom := Nat.log2_self_le isPositive
    have isTo := @Nat.lt_log2_self multiple
    rw [isBlock] at isFrom isTo
    -- Without its last bits the number has the length of a significand.
    have shifted : multiple >>> block = multiple / twoTo block :=
      Nat.shiftRight_eq_div_pow multiple block
    have isAtLeast : blockSize ≤ multiple / twoTo block := by
      rw [Nat.le_div_iff_mul_le (twoTo_pos block), blockSize_eq]
      exact Nat.le_trans (Nat.le_of_eq (Nat.pow_add 2 52 block).symm) isFrom
    have isBelow : multiple / twoTo block < 2 * blockSize := by
      rw [Nat.div_lt_iff_lt_mul (twoTo_pos block), blockSize_eq, ← Nat.pow_succ']
      refine Nat.lt_of_lt_of_le isTo (Nat.le_of_eq ?_)
      rw [Nat.add_right_comm]
      exact Nat.pow_add 2 53 block
    obtain ⟨offset, isOffset⟩ := Nat.exists_eq_add_of_le isAtLeast
    have rank :
        rankBelow multiple = (block + 1) * blockSize + offset := by
      rw [rankBelow, isBlock, Nat.add_sub_cancel_left, shifted, isOffset, Nat.add_one_mul]
      omega
    have atRank := magnitude_high_of_le block (Nat.le_of_lt (by omega : offset < blockSize))
    have atNext := magnitude_high_of_le block (by omega : offset + 1 ≤ blockSize)
    rw [rank, Nat.add_assoc, atRank, atNext, ← Nat.add_assoc, ← isOffset]
    refine ⟨Nat.div_mul_le_self _ _, ?_⟩
    rw [Nat.mul_comm]
    exact Nat.lt_mul_div_succ multiple (twoTo_pos block)

/--
A fraction is rounded beyond an odd rank exactly if it is at least halfway to the
next one, since a tie goes to the even rank.
-/
theorem nearestRank_le_iff {numerator denominator rank : Nat}
    (isPositive : 0 < denominator)
    (isOdd : rank % 2 = 1) :
    nearestRank numerator denominator ≤ rank ↔
      2 * numerator < denominator * (magnitude rank + magnitude (rank + 1)) := by
  obtain ⟨isFrom, isTo⟩ := magnitude_rankBelow_le_lt (numerator / denominator)
  have isAtLeast := (Nat.le_div_iff_mul_le isPositive).mp isFrom
  have isBelow := (Nat.div_lt_iff_lt_mul isPositive).mp isTo
  rw [Nat.mul_comm] at isAtLeast isBelow
  have atMost := nearestRank_le_succ numerator denominator
  have atLeast := rankBelow_le_nearestRank numerator denominator
  rw [Nat.mul_add]
  rcases Nat.lt_trichotomy (rankBelow (numerator / denominator)) rank with
    isLower | isSame | isHigher
  · have toRank : denominator * magnitude (rankBelow (numerator / denominator) + 1) ≤
        denominator * magnitude rank :=
      Nat.mul_le_mul_left _ (magnitude_mono isLower)
    have toNext : denominator * magnitude rank ≤ denominator * magnitude (rank + 1) :=
      Nat.mul_le_mul_left _ (magnitude_mono (Nat.le_succ rank))
    constructor <;> intro <;> omega
  · unfold nearestRank
    dsimp only
    rw [isSame, isOdd, Nat.mul_add]
    split
    · omega
    · split <;> omega
  · have fromNext : denominator * magnitude (rank + 1) ≤
        denominator * magnitude (rankBelow (numerator / denominator)) :=
      Nat.mul_le_mul_left _ (magnitude_mono isHigher)
    have fromRank : denominator * magnitude rank ≤ denominator * magnitude (rank + 1) :=
      Nat.mul_le_mul_left _ (magnitude_mono (Nat.le_succ rank))
    constructor <;> intro <;> omega

/-- A fraction of multiples of the least magnitude is finite below the bound. -/
theorem nearestRank_lt_infinityRank_iff {significand denominator : Nat}
    (isPositive : 0 < denominator) :
    nearestRank (significand * fineness) denominator < infinityRank ↔
      significand < denominator * overflowBound := by
  have halfway :
      magnitude (infinityRank - 1) + magnitude (infinityRank - 1 + 1) =
        2 * fineness * overflowBound := by
    decide +kernel
  have isFine : 0 < 2 * fineness := Nat.mul_pos (by decide) (twoTo_pos 1074)
  have isNext : infinityRank = infinityRank - 1 + 1 := rfl
  rw [isNext, Nat.lt_succ_iff, nearestRank_le_iff isPositive (by decide), halfway,
    Nat.mul_comm significand, ← Nat.mul_assoc, Nat.mul_left_comm]
  exact Nat.mul_lt_mul_left isFine

namespace Binary64

/-- A decimal with so many places is finite exactly if it is below the bound. -/
theorem isFinite_ofDecimal_iff (significand places : Nat) :
    (ofDecimal false significand (-places)).isFinite = true ↔
      significand < tenTo places * overflowBound := by
  have isBound : 0 < tenTo places * overflowBound :=
    Nat.mul_pos (tenTo_pos places) (by decide +kernel)
  have isFinite_iff :
      (ofDecimal false significand (-places)).isFinite = true ↔
        rankOfDecimal significand (-places) < infinityRank := by
    refine decide_eq_true_iff.trans ?_
    change min (rankOfDecimal significand (-places)) infinityRank < infinityRank ↔ _
    omega
  rw [isFinite_iff]
  rcases Nat.eq_zero_or_pos significand with rfl | isPositive
  · have isZero : rankOfDecimal 0 (-places) = 0 := if_pos rfl
    rw [isZero]
    exact iff_of_true (by decide) isBound
  have isNotHigh : ¬ decisiveExponent < -(places : Int) := by
    have decisiveExponent_eq : decisiveExponent = 400 := rfl
    omega
  unfold rankOfDecimal
  rw [if_neg (Nat.ne_of_gt isPositive), if_neg isNotHigh]
  split
  · rename_i isTiny
    refine iff_of_true (by decide) ?_
    have isShort : (digits significand).length ≤ places := by
      have decisiveExponent_eq : decisiveExponent = 400 := rfl
      omega
    have isPlace : 0 < places := by
      have decisiveExponent_eq : decisiveExponent = 400 := rfl
      omega
    have isBelow : significand < tenTo places :=
      (Nat.length_toDigits_le_iff (by decide) isPlace).mp isShort
    exact Nat.lt_of_lt_of_le isBelow (Nat.le_mul_of_pos_right _ (by decide +kernel))
  · rcases places with _ | places
    · have noPlace : tenTo 0 = 1 := rfl
      change nearestRank (significand * tenTo 0 * fineness) 1 < infinityRank ↔ _
      rw [noPlace, Nat.mul_one]
      exact nearestRank_lt_infinityRank_iff Nat.one_pos
    · exact nearestRank_lt_infinityRank_iff (tenTo_pos (places + 1))

end Binary64

end EventQuery.Decimal
