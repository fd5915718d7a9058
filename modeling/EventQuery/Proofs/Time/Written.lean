import EventQuery.Proofs.Text.Blank
import EventQuery.Time.Timestamp
import Mathlib.Tactic.Ring

/-!
# Timestamps as they are written

Dates and times of day in digits of fixed widths, with what may stand between and
behind them.  The readers of fixed widths and the lenient ones read the fields of
such a text alike, whatever follows it.
-/

namespace EventQuery

namespace Timestamp

open Text

/-! ## Digits of a fixed width -/

/-- The last digits of a number, so many of them, with zeros in front. -/
def fixedDigits : Nat → Nat → List Char
  | 0, _ => []
  | width + 1, value => fixedDigits width (value / 10) ++ [Nat.digitChar (value % 10)]

/-- The digit of a number below ten. -/
theorem digitChar_of_lt_ten {value : Nat} (isDigit : value < 10) :
    (Nat.digitChar value).isDigit = true ∧ (Nat.digitChar value).toNat - '0'.toNat = value := by
  revert value
  decide

theorem length_fixedDigits (width value : Nat) : (fixedDigits width value).length = width := by
  induction width generalizing value with
  | zero => rfl
  | succ width ih => rw [fixedDigits, List.length_append, ih, List.length_singleton]

theorem isDigit_of_mem_fixedDigits {width value : Nat} {character : Char}
    (isIn : character ∈ fixedDigits width value) :
    character.isDigit = true := by
  induction width generalizing value with
  | zero => cases isIn
  | succ width ih =>
      rcases List.mem_append.mp isIn with isFront | isLast
      · exact ih isFront
      · rw [List.mem_singleton.mp isLast]
        exact (digitChar_of_lt_ten (Nat.mod_lt value (by decide))).1

/-- Digits of a fixed width write the number if they are enough for it. -/
theorem ofDigits_fixedDigits {width value : Nat} (isShort : value < 10 ^ width) :
    Decimal.ofDigits (fixedDigits width value) = value := by
  induction width generalizing value with
  | zero =>
      rw [Nat.pow_zero, Nat.lt_one_iff] at isShort
      exact isShort.symm
  | succ width ih =>
      have isShortFront : value / 10 < 10 ^ width := by
        rw [Nat.pow_succ] at isShort
        omega
      have isLast := (digitChar_of_lt_ten (Nat.mod_lt value (by decide))).2
      have isFront := ih isShortFront
      unfold Decimal.ofDigits at *
      rw [fixedDigits, Nat.ofDigitChars_append, isFront]
      simp only [Nat.ofDigitChars, List.foldl_cons, List.foldl_nil] at *
      omega

/-- Some digits of a fixed width start with a digit. -/
theorem exists_cons_fixedDigits (width value : Nat) :
    ∃ first others, fixedDigits (width + 1) value = first :: others ∧ first.isDigit = true := by
  have isLong := length_fixedDigits (width + 1) value
  cases isDigits : fixedDigits (width + 1) value with
  | nil =>
      rw [isDigits] at isLong
      cases isLong
  | cons first others =>
      have isIn : first ∈ fixedDigits (width + 1) value := by
        rw [isDigits]
        exact List.mem_cons_self
      exact ⟨first, others, rfl, isDigit_of_mem_fixedDigits isIn⟩

/-! ## Reading digits -/

/-- Digits of the greatest width are read off, whatever comes behind them. -/
theorem number?_fixedDigits {least width value : Nat}
    (isEnough : least ≤ width)
    (isShort : value < 10 ^ width)
    (rest : List Char) :
    number? least width (fixedDigits width value ++ rest) = some (value, rest) := by
  have isLong := length_fixedDigits width value
  have isAll : ((fixedDigits width value ++ rest).takeWhile Char.isDigit).take width =
      fixedDigits width value := by
    rw [List.takeWhile_append_of_pos fun _ isIn => isDigit_of_mem_fixedDigits isIn,
      List.take_append_of_le_length (Nat.le_of_eq isLong.symm), List.take_of_length_le
        (Nat.le_of_eq isLong)]
  simp only [number?, isAll, isLong, if_pos isEnough, ofDigits_fixedDigits isShort]
  rw [List.drop_left' isLong]

theorem field?_of_isDigit {first : Char} (isDigit : first.isDigit = true)
    (others : List Char) :
    field? (first :: others) = number? 1 2 (first :: others) := by
  rw [field?, dropBlanks_of_isBlank_eq_false (isBlank_of_isDigit isDigit)]

/-- A year that starts with a digit has no sign. -/
theorem year?_of_isDigit {first : Char} (isDigit : first.isDigit = true)
    (others : List Char) :
    year? (first :: others) =
      (number? 1 4 (first :: others)).map fun read => ((read.1 : Int), read.2) := by
  rw [year?, dropBlanks_of_isBlank_eq_false (isBlank_of_isDigit isDigit)]
  split
  · rename_i isMinus
    cases isMinus
    cases isDigit
  · rename_i isPlus
    cases isPlus
    cases isDigit
  · cases number? 1 4 (first :: others) <;> rfl

/-- A number of a fixed width starts with a digit and is one of any smaller width. -/
theorem number?_of_number? {width : Nat} {characters : List Char} {read : Nat × List Char}
    (isSome : 0 < width)
    (isRead : number? width width characters = some read) :
    number? 1 width characters = some read ∧
      ∃ first others, characters = first :: others ∧ first.isDigit = true := by
  simp only [number?] at isRead ⊢
  split at isRead
  · rename_i isLong
    refine ⟨by rwa [if_pos (Nat.le_trans isSome isLong)], ?_⟩
    cases characters with
    | nil => exact absurd (Nat.le_trans isSome isLong) (by simp)
    | cons first others =>
        refine ⟨first, others, rfl, ?_⟩
        by_contra isOther
        rw [List.takeWhile_cons_of_neg isOther] at isLong
        exact absurd (Nat.le_trans isSome isLong) (by simp)
  · cases isRead

/-- A field of two digits is also read as a lenient one. -/
theorem field?_of_number? {characters : List Char} {read : Nat × List Char}
    (isRead : number? 2 2 characters = some read) :
    field? characters = some read := by
  obtain ⟨isReadToo, first, others, rfl, isDigit⟩ := number?_of_number? (by decide) isRead
  rw [field?_of_isDigit isDigit, isReadToo]

/-- A year of four digits is also read as a lenient one. -/
theorem year?_of_number? {characters rest : List Char} {year : Nat}
    (isRead : number? 4 4 characters = some (year, rest)) :
    year? characters = some ((year : Int), rest) := by
  obtain ⟨isReadToo, first, others, rfl, isDigit⟩ := number?_of_number? (by decide) isRead
  rw [year?_of_isDigit isDigit, isReadToo]
  rfl

/-- A date of fixed widths is also read as a lenient one. -/
theorem lenientDate?_of_fixedDate? {characters : List Char} {read : Date × List Char}
    (isRead : fixedDate? characters = some read) :
    lenientDate? characters = some read := by
  simp only [fixedDate?, Option.bind_eq_bind, Option.bind_eq_some_iff] at isRead
  obtain ⟨⟨year, afterYear⟩, isYear, monthOn, isMark, ⟨month, afterMonth⟩, isMonth, dayOn,
    isMarkToo, ⟨day, afterDay⟩, isDay, date, isDate, isRead⟩ := isRead
  simp only [lenientDate?, Option.bind_eq_bind, Option.bind_some, year?_of_number? isYear, isMark,
    field?_of_number? isMonth, isMarkToo, field?_of_number? isDay, isDate, isRead]

/-- A time of day of fixed widths is also read as a lenient one. -/
theorem lenientTime?_of_fixedTime? {characters : List Char} {read : TimeOfDay × List Char}
    (isRead : fixedTime? characters = some read) :
    lenientTime? characters = some read := by
  simp only [fixedTime?, Option.bind_eq_bind, Option.bind_eq_some_iff] at isRead
  obtain ⟨⟨hour, afterHour⟩, isHour, minuteOn, isMark, ⟨minute, afterMinute⟩, isMinute, secondOn,
    isMarkToo, ⟨second, afterSecond⟩, isSecond, time, isTime, isRead⟩ := isRead
  simp only [lenientTime?, Option.bind_eq_bind, Option.bind_some, field?_of_number? isHour, isMark,
    field?_of_number? isMinute, isMarkToo, field?_of_number? isSecond, isTime, isRead]

/-! ## Dates and times of day -/

/-- The numbers that a timestamp writes, whether or not there is such a time. -/
structure Fields where
  year : Nat
  month : Nat
  day : Nat
  hour : Nat
  minute : Nat
  second : Nat

namespace Fields

/-- Four digits for the year, two for the month and two for the day. -/
def dateText (fields : Fields) : List Char :=
  fixedDigits 4 fields.year ++
    '-' :: (fixedDigits 2 fields.month ++ '-' :: fixedDigits 2 fields.day)

/-- Two digits each for the hour, the minute and the second. -/
def clockText (fields : Fields) : List Char :=
  fixedDigits 2 fields.hour ++
    ':' :: (fixedDigits 2 fields.minute ++ ':' :: fixedDigits 2 fields.second)

/-- Every number of the date fits into its digits. -/
structure FitDate (fields : Fields) : Prop where
  year_lt : fields.year < 10000
  month_lt : fields.month < 100
  day_lt : fields.day < 100

/-- The numbers of the time of day are those of a clock without leap seconds. -/
structure AreClock (fields : Fields) : Prop where
  hour_lt : fields.hour < 24
  minute_lt : fields.minute < 60
  second_lt : fields.second < 60

/-- The date of the fields, if there is one. -/
def date? (fields : Fields) : Option Date :=
  Date.ofFields? fields.year fields.month fields.day

/-- The second of the day of the fields. -/
def secondOfDay (fields : Fields) : Nat :=
  fields.hour * 3600 + fields.minute * 60 + fields.second

variable {fields : Fields}

theorem fixedDate?_dateText (fit : fields.FitDate) (rest : List Char) :
    fixedDate? (fields.dateText ++ rest) = fields.date?.map fun date => (date, rest) := by
  rw [fixedDate?, dateText, List.append_assoc, number?_fixedDigits (by decide) fit.year_lt]
  simp only [Option.bind_eq_bind, Option.bind_some, List.cons_append, List.append_assoc, after?,
    if_true, number?_fixedDigits (Nat.le_refl 2) fit.month_lt,
    number?_fixedDigits (Nat.le_refl 2) fit.day_lt, Option.pure_def]
  exact Option.map_eq_bind.symm

theorem lenientDate?_dateText (fit : fields.FitDate) (rest : List Char) :
    lenientDate? (fields.dateText ++ rest) = fields.date?.map fun date => (date, rest) := by
  have isYear := fun rest =>
    year?_of_number? (number?_fixedDigits (Nat.le_refl 4) fit.year_lt rest)
  have isMonth := fun rest =>
    field?_of_number? (number?_fixedDigits (Nat.le_refl 2) fit.month_lt rest)
  have isDay := fun rest =>
    field?_of_number? (number?_fixedDigits (Nat.le_refl 2) fit.day_lt rest)
  rw [lenientDate?, dateText, List.append_assoc, isYear]
  simp only [Option.bind_eq_bind, Option.bind_some, List.cons_append, List.append_assoc, after?,
    if_true, isMonth, isDay, Option.pure_def]
  exact Option.map_eq_bind.symm

theorem timeOfDay?_of_areClock (areClock : fields.AreClock) :
    timeOfDay? fields.hour fields.minute fields.second = some ⟨fields.secondOfDay, 0⟩ := by
  have hour_lt := areClock.hour_lt
  have minute_lt := areClock.minute_lt
  have second_lt := areClock.second_lt
  rw [timeOfDay?, if_pos (by omega), if_neg (by omega), secondOfDay]

theorem fixedTime?_clockText (areClock : fields.AreClock) (rest : List Char) :
    fixedTime? (fields.clockText ++ rest) = some (⟨fields.secondOfDay, 0⟩, rest) := by
  have hour_lt : fields.hour < 10 ^ 2 := Nat.lt_trans areClock.hour_lt (by decide)
  have minute_lt : fields.minute < 10 ^ 2 := Nat.lt_trans areClock.minute_lt (by decide)
  have second_lt : fields.second < 10 ^ 2 := Nat.lt_trans areClock.second_lt (by decide)
  rw [fixedTime?, clockText, List.append_assoc, number?_fixedDigits (by decide) hour_lt]
  simp only [Option.bind_eq_bind, Option.bind_some, List.cons_append, List.append_assoc, after?,
    if_true, number?_fixedDigits (Nat.le_refl 2) minute_lt,
    number?_fixedDigits (Nat.le_refl 2) second_lt, timeOfDay?_of_areClock areClock,
    Option.pure_def]

end Fields

/-! ## Whole timestamps -/

/-- What stands between a date and a time of day, and what behind them. -/
inductive Layout where
  /-- A blank, and nothing. -/
  | spaced
  /-- A mark, and the letter for universal time. -/
  | universal
  /-- A mark, and how far local time is ahead of universal time. -/
  | ahead (hours minutes : Nat)
  /-- A mark, and how far local time is behind universal time. -/
  | behind (hours minutes : Nat)

namespace Layout

/-- The character between the date and the time of day. -/
def mark : Layout → Char
  | spaced => ' '
  | _ => 'T'

/-- Two digits each for the hours and the minutes of an offset. -/
def offsetText (hours minutes : Nat) : List Char :=
  fixedDigits 2 hours ++ ':' :: fixedDigits 2 minutes

/-- The characters behind the time of day. -/
def zoneText : Layout → List Char
  | spaced => []
  | universal => ['Z']
  | ahead hours minutes => '+' :: offsetText hours minutes
  | behind hours minutes => '-' :: offsetText hours minutes

/-- The seconds by which local time is ahead of universal time. -/
def secondsAhead : Layout → Int
  | spaced => 0
  | universal => 0
  | ahead hours minutes => (hours * 3600 + minutes * 60 : Nat)
  | behind hours minutes => -(hours * 3600 + minutes * 60 : Nat)

/-- Offsets are shorter than a day and of whole minutes. -/
def IsProper : Layout → Prop
  | spaced => True
  | universal => True
  | ahead hours minutes => hours < 24 ∧ minutes < 60
  | behind hours minutes => hours < 24 ∧ minutes < 60

/-- The timestamp of some fields. -/
def text (layout : Layout) (fields : Fields) : List Char :=
  fields.dateText ++ layout.mark :: (fields.clockText ++ layout.zoneText)

theorem offsetAmount?_offsetText {hours minutes : Nat}
    (isOffset : hours < 24 ∧ minutes < 60) :
    offsetAmount? (offsetText hours minutes) =
      some (hours * 3600 + minutes * 60, []) := by
  have hours_lt : hours < 10 ^ 2 := Nat.lt_trans isOffset.1 (by decide)
  have minutes_lt : minutes < 10 ^ 2 := Nat.lt_trans isOffset.2 (by decide)
  have isMinutes := number?_fixedDigits (Nat.le_refl 2) minutes_lt []
  rw [List.append_nil] at isMinutes
  rw [offsetAmount?, offsetText, number?_fixedDigits (Nat.le_refl 2) hours_lt]
  simp only [Option.bind_eq_bind, Option.bind_some, after?, if_true, isMinutes, Option.pure_def]
  rw [if_pos (by omega)]

/-- No fraction of a second is written, and the offset is read off to the end. -/
theorem offset?_zoneText {layout : Layout} (isProper : layout.IsProper)
    (isZoned : layout ≠ spaced) :
    fraction? layout.zoneText = some (0, layout.zoneText) ∧
      offset? layout.zoneText = some (layout.secondsAhead, []) := by
  cases layout with
  | spaced => exact absurd rfl isZoned
  | universal => exact ⟨rfl, rfl⟩
  | ahead hours minutes =>
      refine ⟨rfl, ?_⟩
      simp only [zoneText, offset?, offsetAmount?_offsetText isProper, Option.bind_eq_bind,
        Option.bind_some, Option.pure_def, secondsAhead]
  | behind hours minutes =>
      refine ⟨rfl, ?_⟩
      simp only [zoneText, offset?, offsetAmount?_offsetText isProper, Option.bind_eq_bind,
        Option.bind_some, Option.pure_def, secondsAhead]

end Layout

end Timestamp

end EventQuery
