import EventQuery.Json.Reader
import EventQuery.Json.Writer
import EventQuery.Proofs.Decimal.ReadBack
import EventQuery.Proofs.Text.Reading
import Mathlib.Data.List.Basic

/-!
# JSON numbers read back

A number is its sign, its digits before and behind the point, and its power of
ten.  Those parts are read off their characters again, as long as what follows
does not go on with a number, and the parts that are written for an integer or
a finite binary64 number have that number as their value.
-/

namespace EventQuery.Json

open Text Decimal

/-! ## Digits -/

/-- The characters with which a number may go on. -/
def continuesNumber (character : Char) : Bool :=
  character.isDigit || ['.', 'e', 'E'].contains character

/-- What cannot go on with a number: nothing, or no digit, no point and no power of ten. -/
def EndsNumber (rest : List Char) : Prop :=
  StopsAt continuesNumber rest

namespace EndsNumber

variable {rest : List Char}

theorem isNoDigit (ends : EndsNumber rest) : StopsAt Char.isDigit rest := by
  intro character isHead
  exact (Bool.or_eq_false_iff.mp (ends character isHead)).1

theorem head?_ne (ends : EndsNumber rest) {character : Char}
    (continues : continuesNumber character = true) :
    rest.head? ≠ some character := by
  intro isHead
  rw [ends character isHead] at continues
  cases continues

end EndsNumber

theorem readDigits_append {digits rest : List Char}
    (hasDigits : digits ≠ [])
    (areDigits : ∀ character ∈ digits, character.isDigit = true)
    (ends : StopsAt Char.isDigit rest) :
    readDigits (digits ++ rest) = some (digits, rest) := by
  obtain ⟨taken, dropped⟩ := takeWhile_append_of_stopsAt areDigits ends
  unfold readDigits
  rw [taken, dropped]
  split
  · exact absurd rfl hasDigits
  · rfl

/-- Digits where no zero stands in front of others. -/
structure IsWhole (digits : List Char) : Prop where
  isNonempty : digits ≠ []
  areDigits : ∀ character ∈ digits, character.isDigit = true
  hasNoLeadingZero : ∀ others, digits = '0' :: others → others = []

theorem readWhole_append {digits rest : List Char}
    (isWhole : IsWhole digits)
    (ends : StopsAt Char.isDigit rest) :
    readWhole (digits ++ rest) = some (digits, rest) := by
  unfold readWhole
  rw [readDigits_append isWhole.isNonempty isWhole.areDigits ends]
  split
  · rename_i second others _ isDigits
    cases isDigits
    cases isWhole.hasNoLeadingZero _ rfl
  · rfl

/-- The digits of a positive number start with none that is zero. -/
theorem head?_digits_ne_zero {value : Nat} (isPositive : 0 < value) :
    (digits value).head? ≠ some '0' := by
  unfold digits
  induction value using Nat.strongRecOn with
  | ind value ih =>
      rcases Nat.lt_or_ge value 10 with isSmall | isLarge
      · rw [Nat.toDigits_of_lt_base isSmall, List.head?_singleton]
        intro isZero
        exact Nat.ne_of_gt isPositive (Nat.digitChar_eq_zero.mp (Option.some.inj isZero))
      · have isShorter : value / 10 < value := Nat.div_lt_self isPositive (by decide)
        have isStillPositive : 0 < value / 10 := Nat.div_pos isLarge (by decide)
        rw [Nat.toDigits_of_base_le (by decide) isLarge,
          List.head?_append_of_ne_nil _ Nat.toDigits_ne_nil]
        exact ih _ isShorter isStillPositive

theorem isWhole_digits (value : Nat) : IsWhole (digits value) where
  isNonempty := Nat.toDigits_ne_nil
  areDigits := fun _ isIn => isDigit_of_mem_digits isIn
  hasNoLeadingZero := by
    intro others isZero
    rcases Nat.eq_zero_or_pos value with rfl | isPositive
    · cases isZero
      rfl
    · have isHead : (digits value).head? = some '0' := by
        rw [isZero, List.head?_cons]
      exact absurd isHead (head?_digits_ne_zero isPositive)

/-! ## The parts of a number -/

namespace NumberText

/-- The characters of the digits behind a point, if there is one. -/
def fractionText : Option (List Char) → List Char
  | none => []
  | some digits => '.' :: digits

/-- The characters of a power of ten, if one is given, with its sign. -/
def exponentText : Option Int → List Char
  | none => []
  | some power => 'e' :: (if power < 0 then '-' else '+') :: digits power.natAbs

/-- The characters of a number. -/
def characters (number : NumberText) : List Char :=
  minusSign number.negative ++ number.whole ++ fractionText number.fraction ++
    exponentText number.exponent

/-- A number with digits before its point, and behind it if there is one. -/
structure IsProper (number : NumberText) : Prop where
  isWhole : IsWhole number.whole
  hasFraction : ∀ digits ∈ number.fraction, digits ≠ []
  isFraction : ∀ digits ∈ number.fraction, ∀ character ∈ digits, character.isDigit = true

end NumberText

open NumberText

section Parts

variable {rest : List Char}

/-- Neither a power of ten nor what ends a number goes on with digits or a point. -/
theorem ends_exponentText (exponent : Option Int) (ends : EndsNumber rest) :
    StopsAt Char.isDigit (exponentText exponent ++ rest) ∧
      (exponentText exponent ++ rest).head? ≠ some '.' := by
  cases exponent with
  | none => exact ⟨ends.isNoDigit, ends.head?_ne rfl⟩
  | some power => exact ⟨stopsAt_cons rfl, by simp [exponentText]⟩

theorem readFraction_append {fraction : Option (List Char)}
    (hasFraction : ∀ digits ∈ fraction, digits ≠ [])
    (isFraction : ∀ digits ∈ fraction, ∀ character ∈ digits, character.isDigit = true)
    (isNoDigit : StopsAt Char.isDigit rest)
    (isNoPoint : rest.head? ≠ some '.') :
    readFraction (fractionText fraction ++ rest) = some (fraction, rest) := by
  cases fraction with
  | none =>
      unfold readFraction
      split
      · rename_i isPoint
        rw [fractionText, List.nil_append] at isPoint
        rw [isPoint] at isNoPoint
        exact absurd rfl isNoPoint
      · rfl
  | some digits =>
      have reads :=
        readDigits_append (hasFraction digits rfl) (isFraction digits rfl) isNoDigit
      rw [fractionText, List.cons_append, readFraction, reads, Option.map_some]

/-- A power of ten with its sign is read as itself. -/
theorem readPower_signed (power : Int) (ends : StopsAt Char.isDigit rest) :
    readPower ((if power < 0 then '-' else '+') :: (digits power.natAbs ++ rest)) =
      some (power, rest) := by
  have isWhole := isWhole_digits power.natAbs
  have reads := readDigits_append isWhole.isNonempty isWhole.areDigits ends
  by_cases isNegative : power < 0
  · have value : -(power.natAbs : Int) = power := by omega
    rw [if_pos isNegative, readPower, reads, Option.map_some, ofDigits_digits, value]
  · have value : (power.natAbs : Int) = power := by omega
    rw [if_neg isNegative, readPower, reads, Option.map_some, ofDigits_digits, value]

theorem readExponent_append (exponent : Option Int) (ends : EndsNumber rest) :
    readExponent (exponentText exponent ++ rest) = some (exponent, rest) := by
  cases exponent with
  | none =>
      unfold readExponent
      rw [exponentText, List.nil_append]
      split
      · exact absurd rfl (ends.head?_ne rfl)
      · exact absurd rfl (ends.head?_ne rfl)
      · rfl
  | some power =>
      rw [exponentText, List.cons_append, List.cons_append, readExponent,
        readPower_signed power ends.isNoDigit, Option.map_some]

/-- The parts of a number are read off its characters. -/
theorem readNumber_characters {number : NumberText}
    (isProper : number.IsProper)
    (ends : EndsNumber rest) :
    readNumber (number.characters ++ rest) = some (number, rest) := by
  obtain ⟨negative, whole, fraction, exponent⟩ := number
  obtain ⟨isWhole, hasFraction, isFraction⟩ := isProper
  dsimp only at isWhole hasFraction isFraction
  obtain ⟨isNoDigit, isNoPoint⟩ := ends_exponentText exponent ends
  have endsWhole :
      StopsAt Char.isDigit (fractionText fraction ++ (exponentText exponent ++ rest)) := by
    cases fraction with
    | none => exact isNoDigit
    | some digits => exact stopsAt_cons rfl
  have readsWhole := readWhole_append isWhole endsWhole
  have readsFraction := readFraction_append hasFraction isFraction isNoDigit isNoPoint
  have readsExponent := readExponent_append exponent ends
  unfold readNumber NumberText.characters
  simp only [List.append_assoc]
  cases negative with
  | true =>
      simp [minusSign, readsWhole, readsFraction, readsExponent]
  | false =>
      obtain ⟨first, others, rfl⟩ := List.exists_cons_of_ne_nil isWhole.isNonempty
      have isNoSign : first ≠ '-' := by
        rintro rfl
        exact absurd (isWhole.areDigits '-' List.mem_cons_self) (by decide)
      rw [List.cons_append] at readsWhole
      simp [minusSign, isNoSign, readsWhole, readsFraction, readsExponent]

end Parts

/-! ## Integers -/

/-- The parts of an integer. -/
def NumberText.ofInt (value : Int) : NumberText :=
  ⟨value < 0, digits value.natAbs, none, none⟩

theorem toList_integerText (value : Int) :
    (integerText value).toList = (NumberText.ofInt value).characters := by
  simp [integerText, NumberText.ofInt, NumberText.characters, fractionText, exponentText]

theorem isProper_ofInt (value : Int) : (NumberText.ofInt value).IsProper where
  isWhole := isWhole_digits value.natAbs
  hasFraction := by simp [NumberText.ofInt]
  isFraction := by simp [NumberText.ofInt]

/-- An integer that fits into 64 bits is the value of its parts. -/
theorem value?_ofInt {value : Int} (isInRange : isIntegerRange value = true) :
    (NumberText.ofInt value).value? = some (.integer value) := by
  have isValue : ofDigits ((NumberText.ofInt value).whole ++ []) = value.natAbs := by
    rw [List.append_nil, NumberText.ofInt, ofDigits_digits]
  have isSigned :
      (if (NumberText.ofInt value).negative then -(value.natAbs : Int) else value.natAbs) =
        value := by
    rw [NumberText.ofInt]
    dsimp only
    by_cases isNegative : value < 0
    · rw [if_pos (decide_eq_true isNegative)]
      omega
    · rw [decide_eq_false isNegative, if_neg Bool.false_ne_true]
      omega
  have isNoNegativeZero :
      ((NumberText.ofInt value).negative && value.natAbs == 0) = false := by
    rw [NumberText.ofInt, Bool.and_eq_false_iff, decide_eq_false_iff_not, beq_eq_false_iff_ne]
    omega
  have isWhole :
      ((NumberText.ofInt value).fraction.isNone && (NumberText.ofInt value).exponent.isNone) =
        true :=
    rfl
  have isAllWhole : (NumberText.ofInt value).fraction.getD [] = [] := rfl
  unfold NumberText.value?
  dsimp only
  rw [isAllWhole, isValue, isSigned, isWhole, isNoNegativeZero, isInRange]
  rfl

/-! ## Binary64 numbers -/

theorem ofRank_rank (value : Binary64) : Binary64.ofRank value.negative value.rank = value := by
  obtain ⟨negative, rank, isRank⟩ := value
  simp only [Binary64.ofRank, Nat.min_eq_left isRank]

/-- Parts with a point or a power of ten that are rounded to a finite number have it as value. -/
theorem value?_of_rank {number : NumberText} {value : Binary64}
    (isFinite : value.isFinite = true)
    (isNotWhole : (number.fraction.isNone && number.exponent.isNone) = false)
    (isSameSign : number.negative = value.negative)
    (reads :
      Binary64.rankOfDecimal (ofDigits (number.whole ++ number.fraction.getD []))
          (number.exponent.getD 0 - (number.fraction.getD []).length) =
        value.rank) :
    number.value? = some (.float value) := by
  have isValue :
      Binary64.ofDecimal number.negative (ofDigits (number.whole ++ number.fraction.getD []))
          (number.exponent.getD 0 - (number.fraction.getD []).length) =
        value := by
    rw [Binary64.ofDecimal, reads, isSameSign, ofRank_rank]
  unfold NumberText.value?
  dsimp only
  rw [isNotWhole, isValue, if_neg (by simp), if_pos isFinite]

/-- Only zero is written with a significand that is zero, and without a power of ten. -/
theorem exponent_eq_zero_of_shortest (tie : Tie) {rank : Nat}
    (isFinite : rank < infinityRank)
    (isZero : (shortest tie rank).significand = 0) :
    (shortest tie rank).exponent = 0 := by
  have reads := readsBack_iff.mp (readsBack_shortest tie isFinite)
  rw [isZero] at reads
  have rank_eq : rank = 0 := reads.symm
  subst rank_eq
  rfl

/-- Positional text has one digit before its point, or starts like a positive number. -/
theorem positionalText_starts {decimal : Scaled}
    (isZero : decimal.significand = 0 → decimal.exponent = 0) :
    (∃ first rest, positionalText true decimal = first :: '.' :: rest) ∨
      0 < decimal.significand ∧
        (positionalText true decimal).head? = (digits decimal.significand).head? := by
  obtain ⟨significand, zeros | below⟩ := decimal
  · rcases Nat.eq_zero_or_pos significand with rfl | isPositive
    · have noZeros : zeros = 0 := Int.ofNat_eq_zero.mp (isZero rfl)
      subst noZeros
      exact .inl ⟨'0', ['0'], rfl⟩
    · refine .inr ⟨isPositive, ?_⟩
      dsimp only [positionalText]
      rw [List.append_assoc, List.head?_append_of_ne_nil _ (isWhole_digits _).isNonempty]
  · dsimp only [positionalText]
    by_cases isShort : (digits significand).length ≤ below + 1
    · refine .inl ?_
      have isPadded :
          (List.replicate (below + 1 + 1 - (digits significand).length) '0' ++
              digits significand).length =
            below + 1 + 1 := by
        rw [List.length_append, List.length_replicate]
        omega
      rw [isPadded, Nat.add_sub_cancel_left]
      obtain ⟨first, others, isCons⟩ :=
        List.exists_cons_of_ne_nil (List.ne_nil_of_length_eq_add_one isPadded)
      rw [isCons]
      exact ⟨first, _, rfl⟩
    · have isPositive : 0 < significand := by
        refine Nat.pos_of_ne_zero ?_
        rintro rfl
        exact isShort (Nat.le_add_left 1 below)
      have isUnpadded : below + 1 + 1 - (digits significand).length = 0 := by omega
      refine .inr ⟨isPositive, ?_⟩
      rw [isUnpadded, List.replicate_zero, List.nil_append,
        List.head?_append_of_ne_nil _ (List.ne_nil_of_length_pos ?_), List.head?_take,
        if_neg (by omega)]
      rw [List.length_take]
      omega

/-- Positional text has no zero in front of other digits. -/
theorem isWhole_of_positionalText {decimal : Scaled} {whole fraction : List Char}
    (isZero : decimal.significand = 0 → decimal.exponent = 0)
    (isText : positionalText true decimal = whole ++ '.' :: fraction)
    (hasWhole : whole ≠ [])
    (areDigits : ∀ character ∈ whole, character.isDigit = true) :
    IsWhole whole := by
  refine ⟨hasWhole, areDigits, fun others isLed => ?_⟩
  subst isLed
  rcases positionalText_starts isZero with ⟨first, rest, starts⟩ | ⟨isPositive, starts⟩
  · cases others with
    | nil => rfl
    | cons second others =>
        rw [isText] at starts
        obtain ⟨-, isPoint, -⟩ := List.cons_eq_cons.mp starts |>.imp id List.cons_eq_cons.mp
        subst isPoint
        exact absurd (areDigits '.' (by simp)) (by decide)
  · rw [isText] at starts
    exact absurd starts.symm (head?_digits_ne_zero isPositive)

/-- The parts of a number in scientific text. -/
def scientificParts (negative : Bool) (decimal : Scaled) : NumberText :=
  match digits decimal.significand with
  | first :: second :: others =>
      ⟨negative, [first], some (second :: others), some decimal.leading⟩
  | short => ⟨negative, short, none, some decimal.leading⟩

section Scientific

variable (negative : Bool) (decimal : Scaled)

theorem characters_scientificParts :
    minusSign negative ++ scientificText decimal decimal.leading =
      (scientificParts negative decimal).characters := by
  unfold scientificText scientificParts NumberText.characters
  generalize digits decimal.significand = shown
  match shown with
  | [] => simp [fractionText, exponentText]
  | [first] => simp [fractionText, exponentText]
  | first :: second :: others => simp [fractionText, exponentText]

theorem isProper_scientificParts : (scientificParts negative decimal).IsProper := by
  have isWhole := isWhole_digits decimal.significand
  unfold scientificParts
  split
  · rename_i first second others isDigits
    rw [isDigits] at isWhole
    obtain ⟨isDigit, areDigits⟩ := List.forall_mem_cons.mp isWhole.areDigits
    refine ⟨⟨by simp, by simpa using isDigit, fun others isOne => ?_⟩, ?_, ?_⟩
    · exact (List.cons_eq_cons.mp isOne).2.symm
    · rintro digits ⟨⟩
      exact List.cons_ne_nil _ _
    · rintro digits ⟨⟩
      exact areDigits
  · exact ⟨isWhole, by simp, by simp⟩

/-- The parts of scientific text are worth the decimal that they are made of. -/
theorem rankOfDecimal_scientificParts :
    Binary64.rankOfDecimal
        (ofDigits ((scientificParts negative decimal).whole ++
          (scientificParts negative decimal).fraction.getD []))
        ((scientificParts negative decimal).exponent.getD 0 -
          ((scientificParts negative decimal).fraction.getD []).length) =
      Binary64.rankOfDecimal decimal.significand decimal.exponent := by
  have isNonempty := (isWhole_digits decimal.significand).isNonempty
  have leading : decimal.leading =
    decimal.exponent + (digits decimal.significand).length - 1 := rfl
  have value := ofDigits_digits decimal.significand
  unfold scientificParts
  split
  · rename_i first second others isDigits
    rw [isDigits] at leading value
    have isExponent : decimal.leading - (second :: others).length = decimal.exponent := by
      rw [leading, List.length_cons]
      omega
    dsimp only [Option.getD_some, List.cons_append, List.nil_append]
    rw [value, isExponent]
  · rename_i isShort
    have isOne : (digits decimal.significand).length = 1 := by
      generalize digits decimal.significand = shown at isNonempty isShort
      match shown with
      | [] => exact absurd rfl isNonempty
      | [only] => rfl
      | first :: second :: others => exact absurd rfl (isShort first second others)
    have isExponent : decimal.leading - (0 : Nat) = decimal.exponent := by
      omega
    dsimp only [Option.getD_some, Option.getD_none, List.length_nil]
    rw [List.append_nil, value, isExponent]

end Scientific

/-- A finite number is written as parts that have it as their value. -/
theorem exists_numberText {value : Binary64} (isFinite : value.isFinite = true) :
    ∃ number : NumberText,
      (jsonLayout.text value).toList = number.characters ∧
        number.IsProper ∧ number.value? = some (.float value) := by
  have isFiniteRank : value.rank < infinityRank := of_decide_eq_true isFinite
  have reads := readsBack_shortest .even isFiniteRank
  have isZero := exponent_eq_zero_of_shortest .even isFiniteRank
  have isTie : jsonLayout.tie = .even := rfl
  have keepsPoint : jsonLayout.keepsPoint = true := rfl
  rw [Layout.text, if_pos isFinite, String.toList_ofList, Layout.magnitudeText, isTie, keepsPoint]
  generalize shortest .even value.rank = decimal at reads isZero ⊢
  split
  · obtain ⟨whole, fraction, isText, pointed⟩ := exists_pointedText isFiniteRank reads
    refine ⟨⟨value.negative, whole, some fraction, none⟩, ?_, ⟨?_, ?_, ?_⟩, ?_⟩
    · rw [isText]
      simp [NumberText.characters, fractionText, exponentText]
    · exact isWhole_of_positionalText isZero isText pointed.hasWhole pointed.isWhole
    · rintro digits ⟨⟩
      exact pointed.hasFraction
    · rintro digits ⟨⟩
      exact pointed.isFraction
    · refine value?_of_rank isFinite rfl rfl ?_
      rw [← pointed.reads]
      simp
  · refine
      ⟨scientificParts value.negative decimal, characters_scientificParts _ _,
        isProper_scientificParts _ _, value?_of_rank isFinite ?_ ?_ ?_⟩
    · unfold scientificParts
      split <;> rfl
    · unfold scientificParts
      split <;> rfl
    · rw [rankOfDecimal_scientificParts]
      exact readsBack_iff.mp reads

end EventQuery.Json
