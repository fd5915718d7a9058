import EventQuery.Decimal.Layout
import EventQuery.Proofs.Decimal.Rounding

/-!
# Decimal text reads back

The digits written for a finite magnitude are rounded to that magnitude again.
Zeros may move between a significand and its exponent as long as the decimal
stays finite, so neither the zeros that are dropped nor those that are filled
in around the point change what is read.
-/

namespace EventQuery.Decimal

namespace Binary64

/-! ## Zeros at the end of a significand -/

theorem length_digits_mul_ten {significand : Nat} (isPositive : 0 < significand) :
    (digits (significand * 10)).length = (digits significand).length + 1 := by
  unfold digits
  rw [Nat.toDigits_of_base_le (by decide) (Nat.le_mul_of_pos_left 10 isPositive),
    Nat.mul_div_cancel _ (by decide), List.length_append]
  rfl

/-- A positive decimal of at least `10 ^ 400` is infinite. -/
theorem exponent_lt_of_finite {significand : Nat} {exponent : Int}
    (isPositive : 0 < significand)
    (isFinite : rankOfDecimal significand exponent < infinityRank) :
    exponent < decisiveExponent := by
  refine Int.not_le.mp fun isHigh => Nat.not_le.mpr isFinite ?_
  have isNonzero : significand ≠ 0 := Nat.ne_of_gt isPositive
  rcases Int.lt_or_eq_of_le isHigh with isHigher | rfl
  · have isInfinite : rankOfDecimal significand exponent = infinityRank := by
      unfold rankOfDecimal
      rw [if_neg isNonzero, if_pos isHigher]
    exact Nat.le_of_eq isInfinite.symm
  · have isLarge : twoTo 2098 ≤ significand * tenTo 400 * fineness / 1 := by
      have power : twoTo 2098 ≤ tenTo 400 * fineness := by decide +kernel
      rw [Nat.div_one, Nat.mul_assoc]
      exact Nat.le_trans power (Nat.le_mul_of_pos_left _ isPositive)
    have isLong : ¬ decisiveExponent + (digits significand).length < -decisiveExponent := by
      have decisiveExponent_eq : decisiveExponent = 400 := rfl
      omega
    unfold rankOfDecimal
    rw [if_neg isNonzero, if_neg (Int.lt_irrefl _), if_neg isLong]
    exact Nat.le_trans (infinityRank_le_rankBelow isLarge) (rankBelow_le_nearestRank _ _)

/-- Below the decisive exponent a zero may move from the significand to the exponent. -/
theorem rankOfDecimal_mul_ten {significand : Nat} {exponent : Int}
    (isBelow : exponent < decisiveExponent) :
    rankOfDecimal (significand * 10) exponent = rankOfDecimal significand (exponent + 1) := by
  rcases Nat.eq_zero_or_pos significand with rfl | isPositive
  · rfl
  have isNonzero : significand ≠ 0 := Nat.ne_of_gt isPositive
  have isNonzero' : significand * 10 ≠ 0 := Nat.mul_ne_zero isNonzero (by decide)
  unfold rankOfDecimal
  rw [if_neg isNonzero, if_neg isNonzero', if_neg (Int.lt_asymm isBelow),
    if_neg (Int.not_lt.mpr (Int.add_one_le_of_lt isBelow)),
    length_digits_mul_ten isPositive]
  have sameLength :
      exponent + ((digits significand).length + 1 : Nat) =
        exponent + 1 + (digits significand).length := by
    omega
  rw [sameLength]
  -- The fineness is a large number, which must not be computed here.
  generalize fineness = unit
  split
  · rfl
  · rcases exponent with zeros | _ | places
    · change
        nearestRank (significand * 10 * tenTo zeros * unit) 1 =
          nearestRank (significand * tenTo (zeros + 1) * unit) 1
      rw [tenTo_succ, Nat.mul_comm (tenTo zeros) 10, Nat.mul_assoc significand]
    · change
        nearestRank (significand * 10 * unit) (10 * 1) =
          nearestRank (significand * 1 * unit) 1
      rw [Nat.mul_comm significand 10, Nat.mul_assoc,
        nearestRank_scale _ _ (by decide), Nat.mul_one]
    · change
        nearestRank (significand * 10 * unit) (tenTo (places + 1 + 1)) =
          nearestRank (significand * unit) (tenTo (places + 1))
      rw [tenTo_succ, Nat.mul_comm significand 10, Nat.mul_assoc,
        Nat.mul_comm (tenTo (places + 1)) 10, nearestRank_scale _ _ (by decide)]

/-- Zeros that are filled in behind a finite decimal change nothing. -/
theorem rankOfDecimal_fill {significand rank : Nat} {exponent : Int} (zeros : Nat)
    (isFinite : rank < infinityRank)
    (reads : rankOfDecimal significand exponent = rank) :
    rankOfDecimal (significand * tenTo zeros) (exponent - zeros) = rank := by
  rcases Nat.eq_zero_or_pos significand with rfl | isPositive
  · rw [Nat.zero_mul]
    exact reads
  have isBelow : exponent < decisiveExponent :=
    exponent_lt_of_finite isPositive (reads ▸ isFinite)
  induction zeros with
  | zero => simpa [tenTo] using reads
  | succ zeros ih =>
      have isStep : exponent - (zeros + 1 : Nat) + 1 = exponent - zeros := by omega
      rw [tenTo_succ, ← Nat.mul_assoc, rankOfDecimal_mul_ten (by omega), isStep, ih]

end Binary64

/-! ## The shortest decimal -/

theorem readsBack_iff {rank : Nat} {decimal : Scaled} :
    decimal.readsBack rank = true ↔
      Binary64.rankOfDecimal decimal.significand decimal.exponent = rank :=
  beq_iff_eq

/-- A decimal reads back without the zeros at its end if it does with them. -/
theorem Scaled.readsBack_withoutTrailingZeros {rank : Nat} {decimal : Scaled}
    (isFinite : rank < infinityRank)
    (reads : decimal.readsBack rank = true) :
    decimal.withoutTrailingZeros.readsBack rank = true := by
  fun_induction withoutTrailingZeros decimal with
  | case1 decimal hasZero ih =>
      obtain ⟨isNonzero, isZero⟩ := hasZero
      have shifted : decimal.significand / 10 * 10 = decimal.significand :=
        Nat.div_mul_cancel (Nat.dvd_of_mod_eq_zero isZero)
      refine ih (readsBack_iff.mpr ?_)
      have read := readsBack_iff.mp reads
      have isBelow :=
        Binary64.exponent_lt_of_finite (Nat.pos_of_ne_zero isNonzero) (read ▸ isFinite)
      rw [← Binary64.rankOfDecimal_mul_ten isBelow, shifted]
      exact read
  | case2 => exact reads

/-- A point that a search finds reads back. -/
theorem readsBack_of_firstGridPoint
    {tie : Tie} {rank finer : Nat} {exponent : Int} {decimal : Scaled}
    (found : firstGridPoint tie rank exponent finer = some decimal) :
    decimal.readsBack rank = true := by
  fun_induction firstGridPoint tie rank exponent finer with
  | case1 => cases found
  | case2 exponent finer neighbours reads =>
      cases found
      exact reads
  | case3 exponent finer neighbours _ reads =>
      cases found
      exact reads
  | case4 exponent finer neighbours _ _ ih => exact ih found

theorem lt_length_digits {value places : Nat}
    (isPlace : 0 < places)
    (isLarge : tenTo places ≤ value) :
    places < (digits value).length := by
  refine Nat.not_le.mp fun isShort => Nat.not_lt.mpr isLarge ?_
  exact (Nat.length_toDigits_le_iff (by decide) isPlace).mp isShort

/-- All digits of a magnitude, which are the last resort, read back. -/
theorem readsBack_exact {rank : Nat} (isPositive : 0 < rank) :
    Scaled.readsBack rank ⟨magnitude rank * Nat.pow 5 1074, -1074⟩ = true := by
  rw [readsBack_iff]
  have hasMagnitude : 0 < magnitude rank := by
    obtain ⟨before, rfl⟩ := Nat.exists_eq_add_of_le' isPositive
    exact Nat.zero_lt_of_lt (magnitude_lt_succ before)
  have isLarge : tenTo 673 ≤ magnitude rank * Nat.pow 5 1074 :=
    Nat.le_trans (by decide +kernel) (Nat.le_mul_of_pos_left (Nat.pow 5 1074) hasMagnitude)
  have isLong : 673 < (digits (magnitude rank * Nat.pow 5 1074)).length :=
    lt_length_digits (by decide) isLarge
  have isNonzero : magnitude rank * Nat.pow 5 1074 ≠ 0 :=
    Nat.ne_of_gt (Nat.lt_of_lt_of_le (tenTo_pos 673) isLarge)
  have isDecided :
      ¬ (-1074 : Int) + (digits (magnitude rank * Nat.pow 5 1074)).length <
        -Binary64.decisiveExponent := by
    have decisiveExponent_eq : Binary64.decisiveExponent = 400 := rfl
    omega
  have isNotHigh : ¬ Binary64.decisiveExponent < -1074 := by decide
  have powers : Nat.pow 5 1074 * fineness = tenTo 1074 := by decide +kernel
  unfold Binary64.rankOfDecimal
  rw [if_neg isNonzero, if_neg isNotHigh, if_neg isDecided]
  change nearestRank (magnitude rank * Nat.pow 5 1074 * fineness) (tenTo 1074) = rank
  rw [Nat.mul_assoc, powers, nearestRank_magnitude _ (tenTo_pos 1074)]

/-- The decimal chosen for a finite magnitude reads back. -/
theorem readsBack_shortest {rank : Nat} (tie : Tie) (isFinite : rank < infinityRank) :
    (shortest tie rank).readsBack rank = true := by
  unfold shortest
  split
  · rename_i isZero
    subst isZero
    rfl
  · rename_i isNonzero
    dsimp only
    split
    · rename_i found
      exact
        Scaled.readsBack_withoutTrailingZeros isFinite (readsBack_of_firstGridPoint found)
    · exact
        Scaled.readsBack_withoutTrailingZeros isFinite
          (readsBack_exact (Nat.pos_of_ne_zero isNonzero))

/-! ## Positional text -/

/-- Digits before a point, and digits behind it, that are rounded to a rank. -/
structure PointedText (rank : Nat) (whole fraction : List Char) : Prop where
  hasWhole : whole ≠ []
  hasFraction : fraction ≠ []
  isWhole : ∀ character ∈ whole, character.isDigit = true
  isFraction : ∀ character ∈ fraction, character.isDigit = true
  reads :
    Binary64.rankOfDecimal (ofDigits (whole ++ fraction)) (-fraction.length) = rank

theorem isDigit_of_mem_replicate {zeros : Nat} {character : Char}
    (isIn : character ∈ List.replicate zeros '0') :
    character.isDigit = true :=
  List.eq_of_mem_replicate isIn ▸ rfl

theorem ofDigits_replicate_append (zeros : Nat) (characters : List Char) :
    ofDigits (List.replicate zeros '0' ++ characters) = ofDigits characters := by
  unfold ofDigits
  rw [Nat.ofDigitChars_append, Nat.ofDigitChars_replicate_zero, Nat.mul_zero]

theorem ofDigits_append_replicate (value zeros : Nat) :
    ofDigits (digits value ++ List.replicate zeros '0') = value * tenTo zeros := by
  have reads := ofDigits_digits value
  unfold ofDigits at *
  rw [Nat.ofDigitChars_append, reads, Nat.ofDigitChars_replicate_zero, Nat.mul_comm]
  rfl

/-- A text of digits may be pointed behind its first digit or later. -/
theorem pointedText_of_digits {rank places : Nat} {shown : List Char}
    (isDigit : ∀ character ∈ shown, character.isDigit = true)
    (isPlace : 0 < places)
    (isLong : places < shown.length)
    (reads : Binary64.rankOfDecimal (ofDigits shown) (-places) = rank) :
    PointedText rank (shown.take (shown.length - places))
      (shown.drop (shown.length - places)) := by
  have hasPlaces : (shown.drop (shown.length - places)).length = places := by
    rw [List.length_drop]
    omega
  constructor
  · refine List.ne_nil_of_length_pos ?_
    rw [List.length_take]
    omega
  · refine List.ne_nil_of_length_pos ?_
    rw [hasPlaces]
    exact isPlace
  · exact fun character isIn => isDigit character (List.mem_of_mem_take isIn)
  · exact fun character isIn => isDigit character (List.mem_of_mem_drop isIn)
  · rw [List.take_append_drop, hasPlaces]
    exact reads

/-- Positional text with a point has digits on both sides of it, and reads back. -/
theorem exists_pointedText {rank : Nat} {decimal : Scaled}
    (isFinite : rank < infinityRank)
    (reads : decimal.readsBack rank = true) :
    ∃ whole fraction,
      positionalText true decimal = whole ++ '.' :: fraction ∧
        PointedText rank whole fraction := by
  obtain ⟨significand, zeros | below⟩ := decimal
  · have read : Binary64.rankOfDecimal significand zeros = rank := readsBack_iff.mp reads
    refine ⟨digits significand ++ List.replicate zeros '0', ['0'], rfl, ?_⟩
    constructor
    · simp [digits]
    · simp
    · intro character isIn
      rcases List.mem_append.mp isIn with isShown | isZero
      · exact isDigit_of_mem_digits isShown
      · exact isDigit_of_mem_replicate isZero
    · exact fun character isIn => @isDigit_of_mem_replicate 1 character isIn
    · have filled := Binary64.rankOfDecimal_fill (zeros + 1) isFinite read
      have onePlace : (zeros : Int) - (zeros + 1 : Nat) = -1 := by omega
      have value :
          ofDigits (digits significand ++ List.replicate zeros '0' ++ ['0']) =
            significand * tenTo (zeros + 1) := by
        rw [List.append_assoc, ← List.replicate_succ', ofDigits_append_replicate]
      rw [value]
      rw [onePlace] at filled
      exact filled
  · have read : Binary64.rankOfDecimal significand (-(below + 1 : Nat)) = rank :=
      readsBack_iff.mp reads
    refine ⟨_, _, rfl, pointedText_of_digits ?_ (Nat.succ_pos below) ?_ ?_⟩
    · intro character isIn
      rcases List.mem_append.mp isIn with isZero | isShown
      · exact isDigit_of_mem_replicate isZero
      · exact isDigit_of_mem_digits isShown
    · rw [List.length_append, List.length_replicate]
      omega
    · rw [ofDigits_replicate_append, ofDigits_digits]
      exact read

/-- A finite magnitude as a literal has digits on both sides of a point, and reads back. -/
theorem exists_pointedText_literal {rank : Nat} (isFinite : rank < infinityRank) :
    ∃ whole fraction,
      (literalLayout.text (Binary64.ofRank false rank)).toList = whole ++ '.' :: fraction ∧
        PointedText rank whole fraction := by
  obtain ⟨whole, fraction, equal, pointed⟩ :=
    exists_pointedText isFinite (readsBack_shortest .up isFinite)
  refine ⟨whole, fraction, ?_, pointed⟩
  have rank_eq : (Binary64.ofRank false rank).rank = rank :=
    Nat.min_eq_left (Nat.le_of_lt isFinite)
  have finite : (Binary64.ofRank false rank).isFinite = true := by
    simpa [Binary64.isFinite, rank_eq] using isFinite
  rw [Layout.text, if_pos finite, String.toList_ofList, rank_eq]
  exact equal

end EventQuery.Decimal
