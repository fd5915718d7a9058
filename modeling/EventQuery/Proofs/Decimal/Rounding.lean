import EventQuery.Decimal.Binary64

/-!
# Rounding to binary64

Rounding depends on the value of a fraction only, gives every magnitude back
for itself, and overflows from a power of two on.  These are the facts on which
reading decimal text back rests.
-/

namespace EventQuery.Decimal

theorem twoTo_pos (exponent : Nat) : 0 < twoTo exponent :=
  Nat.pow_pos (by decide)

theorem tenTo_pos (exponent : Nat) : 0 < tenTo exponent :=
  Nat.pow_pos (by decide)

theorem blockSize_pos : 0 < blockSize :=
  twoTo_pos 52

/-! ## Magnitudes -/

theorem magnitude_low {rank : Nat} (isLow : rank < blockSize) :
    magnitude rank = rank :=
  if_pos isLow

/-- A rank from `2 ^ 52` on, by its block and its place in the block. -/
theorem magnitude_high (block : Nat) {offset : Nat} (isWithin : offset < blockSize) :
    magnitude ((block + 1) * blockSize + offset) =
      (blockSize + offset) * twoTo block := by
  have isHigh : ¬ (block + 1) * blockSize + offset < blockSize := by
    have isAtLeast : blockSize ≤ (block + 1) * blockSize :=
      Nat.le_mul_of_pos_left blockSize (Nat.succ_pos block)
    omega
  unfold magnitude
  rw [if_neg isHigh, Nat.mul_comm (block + 1), Nat.mul_add_mod, Nat.mod_eq_of_lt isWithin,
    Nat.mul_add_div blockSize_pos, Nat.div_eq_of_lt isWithin]
  rfl

/-- The same number at the end of one block and at the start of the next. -/
theorem magnitude_high_of_le (block : Nat) {offset : Nat} (isWithin : offset ≤ blockSize) :
    magnitude ((block + 1) * blockSize + offset) = (blockSize + offset) * twoTo block := by
  rcases Nat.lt_or_eq_of_le isWithin with isInside | rfl
  · exact magnitude_high block isInside
  · have isNext : (block + 1) * blockSize + blockSize = (block + 1 + 1) * blockSize + 0 := by
      rw [Nat.add_one_mul (block + 1)]
      exact (Nat.add_zero _).symm
    rw [isNext, magnitude_high (block + 1) blockSize_pos, twoTo_succ, Nat.add_zero,
      Nat.mul_comm (twoTo block), ← Nat.mul_assoc, Nat.mul_two]

theorem low_or_high (rank : Nat) :
    rank < blockSize ∨
      ∃ block offset, offset < blockSize ∧ rank = (block + 1) * blockSize + offset := by
  rcases Nat.lt_or_ge rank blockSize with isLow | isHigh
  · exact Or.inl isLow
  · refine Or.inr ⟨rank / blockSize - 1, rank % blockSize, Nat.mod_lt _ blockSize_pos, ?_⟩
    have isLater : 1 ≤ rank / blockSize := (Nat.one_le_div_iff blockSize_pos).mpr isHigh
    rw [Nat.sub_add_cancel isLater, Nat.mul_comm]
    exact (Nat.div_add_mod rank blockSize).symm

/-- Within a block magnitudes are equally spaced; behind it the spacing doubles. -/
theorem magnitude_lt_succ (rank : Nat) : magnitude rank < magnitude (rank + 1) := by
  rcases low_or_high rank with isLow | ⟨block, offset, isWithin, rfl⟩
  · rw [magnitude_low isLow]
    rcases Nat.lt_or_eq_of_le (Nat.succ_le_of_lt isLow) with staysLow | isEdge
    · rw [magnitude_low staysLow]
      exact Nat.lt_succ_self rank
    · have edge : rank + 1 = (0 + 1) * blockSize + 0 := by omega
      rw [edge, magnitude_high 0 blockSize_pos]
      simpa [twoTo] using isLow
  · rw [Nat.add_assoc, magnitude_high block isWithin, magnitude_high_of_le block isWithin]
    exact Nat.mul_lt_mul_of_pos_right (by omega) (twoTo_pos block)

/-- The greatest rank with at most the magnitude of a rank is the rank itself. -/
theorem rankBelow_magnitude (rank : Nat) : rankBelow (magnitude rank) = rank := by
  have blockSize_eq : blockSize = 2 ^ 52 := rfl
  rcases low_or_high rank with isLow | ⟨block, offset, isWithin, rfl⟩
  · rw [magnitude_low isLow]
    have isShort : rank.log2 - 52 = 0 := by
      rcases Nat.eq_zero_or_pos rank with rfl | isPositive
      · simp
      · have isBelow := (Nat.log2_lt (Nat.pos_iff_ne_zero.mp isPositive)).mpr isLow
        omega
    rw [rankBelow, isShort]
    simp
  · rw [magnitude_high block isWithin]
    have isPositive : (blockSize + offset) * twoTo block ≠ 0 :=
      Nat.mul_ne_zero (by have := blockSize_pos; omega) (Nat.ne_of_gt (twoTo_pos block))
    have length : ((blockSize + offset) * twoTo block).log2 = 52 + block := by
      refine (Nat.log2_eq_iff isPositive).mpr ⟨?_, ?_⟩
      · rw [Nat.pow_add, ← blockSize_eq]
        exact Nat.mul_le_mul_right _ (Nat.le_add_right _ _)
      · rw [Nat.add_right_comm, Nat.pow_add]
        refine Nat.mul_lt_mul_of_pos_right ?_ (twoTo_pos block)
        have := @Nat.pow_succ 2 52
        omega
    rw [rankBelow, length, Nat.add_sub_cancel_left, Nat.shiftRight_eq_div_pow]
    have cancels : (blockSize + offset) * twoTo block / 2 ^ block = blockSize + offset :=
      Nat.mul_div_cancel _ (twoTo_pos block)
    rw [cancels, Nat.add_one_mul]
    omega

theorem le_log2_of_twoTo_le {exponent multiple : Nat} (isLarge : twoTo exponent ≤ multiple) :
    exponent ≤ multiple.log2 := by
  have isPositive : multiple ≠ 0 := by
    rintro rfl
    exact absurd isLarge (Nat.not_le.mpr (twoTo_pos exponent))
  exact (Nat.le_log2 isPositive).mpr isLarge

/-- From `2 ^ 2098` on, that is from `2 ^ 1024` as a number, every rank is infinite. -/
theorem infinityRank_le_rankBelow {multiple : Nat} (isLarge : twoTo 2098 ≤ multiple) :
    infinityRank ≤ rankBelow multiple := by
  have isPositive : multiple ≠ 0 := by
    rintro rfl
    exact absurd isLarge (Nat.not_le.mpr (twoTo_pos 2098))
  have isLong : 2098 ≤ multiple.log2 := le_log2_of_twoTo_le isLarge
  have shifted : blockSize ≤ multiple >>> (multiple.log2 - 52) := by
    rw [Nat.shiftRight_eq_div_pow, Nat.le_div_iff_mul_le (Nat.pow_pos (by decide))]
    have split : blockSize * 2 ^ (multiple.log2 - 52) = 2 ^ multiple.log2 := by
      have blockSize_eq : blockSize = 2 ^ 52 := rfl
      rw [blockSize_eq, ← Nat.pow_add]
      congr 1
      omega
    rw [split]
    exact Nat.log2_self_le isPositive
  have blocks : 2046 * blockSize ≤ (multiple.log2 - 52) * blockSize :=
    Nat.mul_le_mul_right _ (by omega)
  have infinityRank_eq : infinityRank = 2046 * blockSize + blockSize := rfl
  unfold rankBelow
  omega

/-- Below a power of two no rank is reached beyond the block of that power. -/
theorem rankBelow_lt {multiple exponent : Nat}
    (isLong : 53 ≤ exponent)
    (isSmall : multiple < twoTo exponent) :
    rankBelow multiple < (exponent - 51) * blockSize := by
  have blockSize_eq : blockSize = 2 ^ 52 := rfl
  have isShort : multiple.log2 < exponent := by
    rcases Nat.eq_zero_or_pos multiple with rfl | isPositive
    · rw [Nat.log2_zero]
      omega
    · exact (Nat.log2_lt (Nat.ne_of_gt isPositive)).mpr isSmall
  have shifted : multiple >>> (multiple.log2 - 52) < 2 * blockSize := by
    rw [Nat.shiftRight_eq_div_pow, Nat.div_lt_iff_lt_mul (Nat.pow_pos (by decide)), blockSize_eq,
      ← Nat.pow_succ', ← Nat.pow_add]
    refine Nat.lt_of_lt_of_le Nat.lt_log2_self (Nat.pow_le_pow_right (by decide) ?_)
    omega
  have blocks : (multiple.log2 - 52) * blockSize ≤ (exponent - 53) * blockSize :=
    Nat.mul_le_mul_right _ (by omega)
  have split : (exponent - 51) * blockSize = (exponent - 53) * blockSize + 2 * blockSize := by
    rw [← Nat.add_mul]
    congr 1
    omega
  unfold rankBelow
  omega

/-! ## Rounding -/

theorem nearestRank_le_succ (numerator denominator : Nat) :
    nearestRank numerator denominator ≤ rankBelow (numerator / denominator) + 1 := by
  unfold nearestRank
  dsimp only
  split
  · exact Nat.le_succ _
  · split
    · exact Nat.le_refl _
    · exact Nat.add_le_add_left (Nat.le_of_lt_succ (Nat.mod_lt _ (by decide))) _

theorem rankBelow_le_nearestRank (numerator denominator : Nat) :
    rankBelow (numerator / denominator) ≤ nearestRank numerator denominator := by
  unfold nearestRank
  dsimp only
  split
  · exact Nat.le_refl _
  · split
    · exact Nat.le_succ _
    · exact Nat.le_add_right _ _

/-- Every magnitude is rounded to its own rank. -/
theorem nearestRank_magnitude {denominator : Nat} (rank : Nat) (isPositive : 0 < denominator) :
    nearestRank (magnitude rank * denominator) denominator = rank := by
  unfold nearestRank
  rw [Nat.mul_div_cancel _ isPositive, rankBelow_magnitude]
  have isBelow :
      2 * (magnitude rank * denominator) <
        denominator * (magnitude rank + magnitude (rank + 1)) := by
    rw [Nat.mul_comm (magnitude rank), ← Nat.mul_assoc, Nat.mul_comm 2, Nat.mul_assoc]
    refine Nat.mul_lt_mul_of_pos_left ?_ isPositive
    have := magnitude_lt_succ rank
    omega
  exact if_pos isBelow

/-- A fraction and its expansions are rounded alike. -/
theorem nearestRank_scale {factor : Nat} (numerator denominator : Nat)
    (isPositive : 0 < factor) :
    nearestRank (factor * numerator) (factor * denominator) =
      nearestRank numerator denominator := by
  unfold nearestRank
  dsimp only
  rw [Nat.mul_div_mul_left _ _ isPositive, Nat.mul_assoc factor, Nat.mul_left_comm 2]
  simp only [Nat.mul_lt_mul_left isPositive]

end EventQuery.Decimal
