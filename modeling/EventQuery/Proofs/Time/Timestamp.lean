import EventQuery.Proofs.Time.Instant
import EventQuery.Proofs.Time.Written
import EventQuery.Time.Resolve
import Mathlib.Data.List.Perm.Basic

/-!
# What a timestamp stands for

No timestamp can be read in two of the formats, so that the order in which they
are tried does not matter.  The formats agree on every date and time of day that
they can write, up to the offset, and none of them takes a date that the calendar
does not have: `resolve?_timestamp`.
-/

namespace EventQuery

namespace Timestamp

open Text

/-! ## One format at most -/

/-- The formats of timestamps, in the order in which they are tried. -/
def formats : List (List Char → Option Instant) :=
  [dateAndTime?, dateAlone?, withOffset?]

/-- A timestamp is what the first format says that reads it. -/
theorem instant?_eq (text : String) :
    instant? text = formats.findSome? fun format => format (trimBlanks text.toList) := by
  simp only [instant?, formats, List.findSome?_cons, List.findSome?_nil]
  cases dateAndTime? (trimBlanks text.toList) with
  | some instant => rfl
  | none =>
      cases dateAlone? (trimBlanks text.toList) with
      | some instant => rfl
      | none => cases withOffset? (trimBlanks text.toList) <;> rfl

/-- If one of some readers at most gives a result, their order does not matter. -/
theorem findSome?_eq_of_perm {α β : Type} {function : α → Option β} {first second : List α}
    (isPerm : first.Perm second)
    (isOne : first.Pairwise fun one other => function one = none ∨ function other = none) :
    first.findSome? function = second.findSome? function := by
  induction isPerm with
  | nil => rfl
  | cons head isPerm ih =>
      rw [List.findSome?_cons, List.findSome?_cons, ih (List.pairwise_cons.mp isOne).2]
  | swap one other others =>
      have isEither := (List.pairwise_cons.mp isOne).1 one List.mem_cons_self
      simp only [List.findSome?_cons]
      rcases isEither with isNone | isNone
      · rw [isNone]
      · rw [isNone]
  | trans isPerm _ ih ihToo =>
      have isOneToo := (isPerm.pairwise_iff fun isEither => isEither.symm).mp isOne
      exact (ih isOne).trans (ihToo isOneToo)

/-- A date alone is no date with a time of day. -/
theorem dateAndTime?_eq_none_of_dateAlone? {characters : List Char} {instant : Instant}
    (isRead : dateAlone? characters = some instant) :
    dateAndTime? characters = none := by
  simp only [dateAlone?, Option.bind_eq_bind, Option.bind_eq_some_iff] at isRead
  obtain ⟨⟨date, rest⟩, isDate, isEnd, isAtEnd, -⟩ := isRead
  have isEmpty : rest = [] := by
    by_contra isMore
    simp [atEnd?, isMore] at isAtEnd
  rw [dateAndTime?, isDate, isEmpty]
  rfl

/-- Behind a mark that is no blank there is no lenient time of day. -/
theorem lenientTime?_of_afterDateMark? {characters rest : List Char}
    (isMark : afterDateMark? characters = some rest) :
    lenientTime? characters = none ∨ characters = ' ' :: rest := by
  unfold afterDateMark? at isMark
  split at isMark
  · exact .inl rfl
  · exact .inl rfl
  · cases isMark
    exact .inr rfl
  · cases isMark

/-- A time of day may have blanks in front. -/
theorem lenientTime?_blank (characters : List Char) :
    lenientTime? (' ' :: characters) = lenientTime? characters := by
  have isDropped : dropBlanks (' ' :: characters) = dropBlanks characters :=
    List.dropWhile_cons_of_pos rfl
  rw [lenientTime?, lenientTime?, field?, field?, isDropped]

/-- Something stands behind the time of day of a timestamp with an offset. -/
theorem ne_nil_of_offset? {characters rest : List Char} {nanos : Nat} {read : Int × List Char}
    (isFraction : fraction? characters = some (nanos, rest))
    (isOffset : offset? rest = some read) :
    characters ≠ [] := by
  rintro rfl
  cases isFraction
  cases isOffset

/-- A timestamp with an offset is neither a date alone nor one with a time of day. -/
theorem lenient_eq_none_of_withOffset? {characters : List Char} {instant : Instant}
    (isRead : withOffset? characters = some instant) :
    dateAndTime? characters = none ∧ dateAlone? characters = none := by
  simp only [withOffset?, Option.bind_eq_bind, Option.bind_eq_some_iff] at isRead
  obtain ⟨⟨date, afterDate⟩, isDate, timeOn, isMark, ⟨time, afterTime⟩, isTime,
    ⟨nanos, zoneOn⟩, isFraction, zone, isOffset, -⟩ := isRead
  have isMore := ne_nil_of_offset? isFraction isOffset
  constructor
  · rw [dateAndTime?, lenientDate?_of_fixedDate? isDate, Option.bind_eq_bind, Option.bind_some]
    rcases lenientTime?_of_afterDateMark? isMark with isNoTime | rfl
    · simp only [isNoTime, Option.bind_eq_bind, Option.bind_none]
    · simp [lenientTime?_blank, lenientTime?_of_fixedTime? isTime, atEnd?, isMore]
  · rw [dateAlone?, lenientDate?_of_fixedDate? isDate, Option.bind_eq_bind, Option.bind_some]
    cases afterDate with
    | nil => cases isMark
    | cons first others => rfl

/-- No characters are read in two formats. -/
theorem formats_pairwise (characters : List Char) :
    formats.Pairwise fun first second =>
      first characters = none ∨ second characters = none := by
  have isOne : dateAndTime? characters = none ∨ dateAlone? characters = none := by
    cases isRead : dateAlone? characters with
    | none => exact .inr rfl
    | some instant => exact .inl (dateAndTime?_eq_none_of_dateAlone? isRead)
  have isOneToo :
      dateAndTime? characters = none ∧ dateAlone? characters = none ∨
        withOffset? characters = none := by
    cases isRead : withOffset? characters with
    | none => exact .inr rfl
    | some instant => exact .inl (lenient_eq_none_of_withOffset? isRead)
  simp only [formats, List.pairwise_cons, List.mem_cons, List.not_mem_nil, or_false,
    forall_eq_or_imp, forall_eq, List.Pairwise.nil, and_true]
  tauto

/-- A format that reads a timestamp says what it stands for, whatever its place in the order. -/
theorem instant?_of_format {text : String} {format : List Char → Option Instant}
    {instant : Instant}
    (isFormat : format ∈ formats)
    (isRead : format (trimBlanks text.toList) = some instant) :
    instant? text = some instant := by
  obtain ⟨front, back, isSplit⟩ := List.append_of_mem isFormat
  have isPerm : formats.Perm (format :: (front ++ back)) := isSplit ▸ List.perm_middle
  rw [instant?_eq, findSome?_eq_of_perm isPerm (formats_pairwise _), List.findSome?_cons, isRead]

/-- A timestamp that no format reads stands for nothing. -/
theorem instant?_eq_none {text : String}
    (isUnread : ∀ format ∈ formats, format (trimBlanks text.toList) = none) :
    instant? text = none := by
  rw [instant?_eq, List.findSome?_eq_none_iff]
  exact isUnread

/-! ## Nothing to trim -/

/-- Digits at the end of a text are visible. -/
theorem isBlank_of_getLast? {front : List Char} {width value : Nat} {last : Char}
    (isLast : last ∈ (front ++ fixedDigits (width + 1) value).getLast?) :
    isBlank last = false := by
  obtain ⟨first, others, isDigits, -⟩ := exists_cons_fixedDigits width value
  have isNonempty : fixedDigits (width + 1) value ≠ [] := by simp [isDigits]
  rw [List.getLast?_append_of_ne_nil _ isNonempty] at isLast
  exact isBlank_of_isDigit (isDigit_of_mem_fixedDigits (List.mem_of_getLast? isLast))

/-- The digit at the start of a date is visible. -/
theorem isBlank_of_head? {fields : Fields} {rest : List Char} {first : Char}
    (isFirst : first ∈ (fields.dateText ++ rest).head?) :
    isBlank first = false := by
  obtain ⟨digit, others, isDigits, isDigit⟩ := exists_cons_fixedDigits 3 fields.year
  rw [Fields.dateText, isDigits] at isFirst
  cases isFirst
  exact isBlank_of_isDigit isDigit

theorem trimBlanks_dateText (fields : Fields) :
    trimBlanks fields.dateText = fields.dateText := by
  refine trimBlanks_eq_self (fun first isFirst => ?_) fun last isLast => ?_
  · rw [← List.append_nil fields.dateText] at isFirst
    exact isBlank_of_head? isFirst
  · have isSplit : fields.dateText =
        (fixedDigits 4 fields.year ++ '-' :: (fixedDigits 2 fields.month ++ ['-'])) ++
          fixedDigits 2 fields.day := by
      simp [Fields.dateText]
    rw [isSplit] at isLast
    exact isBlank_of_getLast? isLast

theorem offsetText_eq (hours minutes : Nat) :
    Layout.offsetText hours minutes =
      (fixedDigits 2 hours ++ [':']) ++ fixedDigits 2 minutes := by
  simp [Layout.offsetText]

theorem trimBlanks_text (layout : Layout) (fields : Fields) :
    trimBlanks (layout.text fields) = layout.text fields := by
  refine trimBlanks_eq_self (fun first isFirst => isBlank_of_head? isFirst) fun last isLast => ?_
  have isSplit : layout.text fields =
      (fields.dateText ++ layout.mark :: fixedDigits 2 fields.hour ++
        ':' :: fixedDigits 2 fields.minute ++ [':']) ++
          fixedDigits 2 fields.second ++ layout.zoneText := by
    simp [Layout.text, Fields.clockText]
  rw [isSplit] at isLast
  cases layout with
  | spaced =>
      rw [Layout.zoneText, List.append_nil] at isLast
      exact isBlank_of_getLast? isLast
  | universal =>
      rw [Layout.zoneText, List.getLast?_concat] at isLast
      cases isLast
      decide
  | ahead hours minutes =>
      rw [Layout.zoneText, offsetText_eq, ← List.cons_append, ← List.append_assoc] at isLast
      exact isBlank_of_getLast? isLast
  | behind hours minutes =>
      rw [Layout.zoneText, offsetText_eq, ← List.cons_append, ← List.append_assoc] at isLast
      exact isBlank_of_getLast? isLast

/-! ## The fields of a date -/

namespace Fields

variable {fields : Fields}

/-- The same date at the start of its day. -/
def atMidnight (fields : Fields) : Fields :=
  { fields with hour := 0, minute := 0, second := 0 }

theorem secondOfDay_atMidnight (fields : Fields) : fields.atMidnight.secondOfDay = 0 := by
  simp only [secondOfDay, atMidnight, Nat.zero_mul, Nat.add_zero]

/-- The date of the fields, whether or not the calendar has it. -/
def date (fields : Fields) : Date :=
  ⟨fields.year * 12 + fields.month - 1, fields.day⟩

/-- There is such a date. -/
structure AreDate (fields : Fields) : Prop where
  isMonth : 1 ≤ fields.month ∧ fields.month ≤ 12
  isProper : fields.date.IsProper

theorem date?_of_areDate (fit : fields.FitDate) (areDate : fields.AreDate) :
    fields.date? = some fields.date := by
  have year_lt := fit.year_lt
  have isMonth := areDate.isMonth
  have isInCalendar : fields.date.isInCalendar = true := by
    rw [Date.isInCalendar_iff]
    simp only [Date.year, date, Calendar.firstYear, Calendar.lastYear]
    omega
  exact if_pos ⟨isMonth.1, isMonth.2, areDate.isProper.day_pos, areDate.isProper.day_le,
    isInCalendar⟩

theorem date?_of_not_areDate (areNoDate : ¬ fields.AreDate) : fields.date? = none := by
  refine if_neg fun isDate => areNoDate ?_
  exact ⟨⟨isDate.1, isDate.2.1⟩, ⟨isDate.2.2.1, isDate.2.2.2.1⟩⟩

theorem secondOfDay_lt (areClock : fields.AreClock) : fields.secondOfDay < secondsPerDay := by
  have hour_lt := areClock.hour_lt
  have minute_lt := areClock.minute_lt
  have second_lt := areClock.second_lt
  simp only [secondOfDay, secondsPerDay]
  omega

/-- Four digits of the year keep a time far from the ends of the calendar. -/
theorem isInCalendar_of_fitDate {shift : Int}
    (fit : fields.FitDate)
    (areDate : fields.AreDate)
    (areClock : fields.AreClock)
    (isShort : shift.natAbs ≤ secondsPerDay) :
    (Instant.mk
      ((Instant.ofDate fields.date fields.secondOfDay 0).seconds - shift) 0).IsInCalendar := by
  have year_lt := fit.year_lt
  have isMonth := areDate.isMonth
  have isYear : fields.date.year = fields.year := by
    simp only [Date.year, date]
    omega
  obtain ⟨isFrom, isTo⟩ := Date.daysBeforeYear_le_dayNumber areDate.isProper
  rw [isYear] at isFrom isTo
  -- The year lies between 0 and 9999, and so does the day between their ends.
  have isNotBefore : Calendar.daysBeforeYear 0 ≤ Calendar.daysBeforeYear fields.year :=
    Calendar.daysBeforeYear_le_iff.mpr (by omega)
  have isNotAfter : Calendar.daysBeforeYear (fields.year + 1) ≤ Calendar.daysBeforeYear 10000 :=
    Calendar.daysBeforeYear_le_iff.mpr (by omega)
  have isFirstYear : Calendar.daysBeforeYear 0 = 0 := by decide
  have isLastYear : Calendar.daysBeforeYear 10000 = 3652425 := by decide
  have isFirst : Instant.firstSecond = -8334601228800 := by decide
  have isLast : Instant.lastSecond = 8210266876799 := by decide
  have isEpoch : Instant.epochDay = 719528 := by decide
  have isInDay := secondOfDay_lt areClock
  simp only [Instant.IsInCalendar, isFirst, isLast, Instant.ofDate, isEpoch]
  simp only [secondsPerDay] at isInDay isShort ⊢
  omega

end Fields

/-! ## What the formats say -/

theorem Layout.natAbs_secondsAhead_le {layout : Layout} (isProper : layout.IsProper) :
    layout.secondsAhead.natAbs ≤ secondsPerDay := by
  cases layout with
  | spaced => decide
  | universal => decide
  | ahead hours minutes =>
      have hours_lt := isProper.1
      have minutes_lt := isProper.2
      simp only [secondsAhead, secondsPerDay]
      omega
  | behind hours minutes =>
      have hours_lt := isProper.1
      have minutes_lt := isProper.2
      simp only [secondsAhead, secondsPerDay]
      omega

variable {fields : Fields}

/-- A date with a time of day in the lenient format. -/
theorem dateAndTime?_text
    (fit : fields.FitDate)
    (areDate : fields.AreDate)
    (areClock : fields.AreClock) :
    dateAndTime? (Layout.spaced.text fields) =
      some (Instant.ofDate fields.date fields.secondOfDay 0) := by
  have isTime := Fields.fixedTime?_clockText areClock []
  rw [dateAndTime?, Layout.text, Fields.lenientDate?_dateText fit,
    Fields.date?_of_areDate fit areDate, Layout.mark, Layout.zoneText]
  simp only [Option.map_some, Option.bind_eq_bind, Option.bind_some, lenientTime?_blank,
    lenientTime?_of_fixedTime? isTime]
  rfl

/-- A date with a time of day and an offset in the format of fixed widths. -/
theorem withOffset?_text {layout : Layout}
    (fit : fields.FitDate)
    (areDate : fields.AreDate)
    (areClock : fields.AreClock)
    (isProper : layout.IsProper)
    (isZoned : layout ≠ .spaced) :
    withOffset? (layout.text fields) =
      some ⟨(Instant.ofDate fields.date fields.secondOfDay 0).seconds - layout.secondsAhead,
        0⟩ := by
  have isInCalendar := Fields.isInCalendar_of_fitDate fit areDate areClock
    (Layout.natAbs_secondsAhead_le isProper)
  have ⟨isFraction, isOffset⟩ := Layout.offset?_zoneText isProper isZoned
  have isMark : layout.mark = 'T' := by
    cases layout with
    | spaced => exact absurd rfl isZoned
    | _ => rfl
  rw [withOffset?, Layout.text, Fields.fixedDate?_dateText fit,
    Fields.date?_of_areDate fit areDate, isMark]
  simp only [Option.map_some, Option.bind_eq_bind, Option.bind_some, afterDateMark?,
    Fields.fixedTime?_clockText areClock, isFraction, isOffset, atEnd?, List.isEmpty_nil, if_true,
    Nat.add_zero]
  exact if_pos isInCalendar

/-- A date alone is its midnight. -/
theorem dateAlone?_dateText
    (fit : fields.FitDate)
    (areDate : fields.AreDate) :
    dateAlone? fields.dateText = some (Instant.ofDate fields.date 0 0) := by
  have isRead := Fields.lenientDate?_dateText fit []
  rw [List.append_nil, Fields.date?_of_areDate fit areDate] at isRead
  rw [dateAlone?, isRead]
  rfl

/-- What a timestamp says, shifted by its offset the other way. -/
theorem instant?_text {layout : Layout}
    (fit : fields.FitDate)
    (areDate : fields.AreDate)
    (areClock : fields.AreClock)
    (isProper : layout.IsProper) :
    instant? (String.ofList (layout.text fields)) =
      some ⟨(Instant.ofDate fields.date fields.secondOfDay 0).seconds - layout.secondsAhead,
        0⟩ := by
  by_cases isSpaced : layout = .spaced
  · subst isSpaced
    have isFormat : dateAndTime? ∈ formats := by simp [formats]
    apply instant?_of_format isFormat
    rw [String.toList_ofList, trimBlanks_text, dateAndTime?_text fit areDate areClock,
      Layout.secondsAhead, Int.sub_zero]
    rfl
  · have isFormat : withOffset? ∈ formats := by simp [formats]
    apply instant?_of_format isFormat
    rw [String.toList_ofList, trimBlanks_text,
      withOffset?_text fit areDate areClock isProper isSpaced]

theorem instant?_dateText
    (fit : fields.FitDate)
    (areDate : fields.AreDate) :
    instant? (String.ofList fields.dateText) = some (Instant.ofDate fields.date 0 0) := by
  have isFormat : dateAlone? ∈ formats := by simp [formats]
  apply instant?_of_format isFormat
  rw [String.toList_ofList, trimBlanks_dateText, dateAlone?_dateText fit areDate]

/-- No format takes a date that the calendar does not have. -/
theorem instant?_of_not_areDate {characters rest : List Char}
    (fit : fields.FitDate)
    (areNoDate : ¬ fields.AreDate)
    (isTrimmed : trimBlanks characters = characters)
    (isSplit : characters = fields.dateText ++ rest) :
    instant? (String.ofList characters) = none := by
  have isNone := Fields.date?_of_not_areDate areNoDate
  apply instant?_eq_none
  rw [String.toList_ofList, isTrimmed, isSplit]
  simp only [formats, List.mem_cons, List.not_mem_nil, or_false, forall_eq_or_imp, forall_eq,
    dateAndTime?, dateAlone?, withOffset?, Fields.lenientDate?_dateText fit,
    Fields.fixedDate?_dateText fit, isNone, Option.map_none, Option.bind_eq_bind,
    Option.bind_none, and_self]

theorem instant?_dateText_of_not_areDate
    (fit : fields.FitDate)
    (areNoDate : ¬ fields.AreDate) :
    instant? (String.ofList fields.dateText) = none :=
  instant?_of_not_areDate fit areNoDate (trimBlanks_dateText fields)
    (List.append_nil fields.dateText).symm

theorem instant?_text_of_not_areDate
    (fit : fields.FitDate)
    (areNoDate : ¬ fields.AreDate)
    (layout : Layout) :
    instant? (String.ofList (layout.text fields)) = none :=
  instant?_of_not_areDate fit areNoDate (trimBlanks_text layout fields) rfl

/-- A date alone is the same as with the time of day at its start. -/
theorem instant?_dateText_eq (fit : fields.FitDate) :
    instant? (String.ofList fields.dateText) =
      instant? (String.ofList (Layout.spaced.text fields.atMidnight)) := by
  have fitToo : fields.atMidnight.FitDate := ⟨fit.year_lt, fit.month_lt, fit.day_lt⟩
  by_cases areDate : fields.AreDate
  · have areDateToo : fields.atMidnight.AreDate := ⟨areDate.isMonth, areDate.isProper⟩
    have areClock : fields.atMidnight.AreClock :=
      ⟨Nat.zero_lt_succ _, Nat.zero_lt_succ _, Nat.zero_lt_succ _⟩
    have isProper : Layout.spaced.IsProper := trivial
    rw [instant?_dateText fit areDate, instant?_text fitToo areDateToo areClock isProper,
      Layout.secondsAhead, Int.sub_zero, Fields.secondOfDay_atMidnight]
    rfl
  · have areNoDateToo : ¬ fields.atMidnight.AreDate :=
      fun areDateToo => areDate ⟨areDateToo.isMonth, areDateToo.isProper⟩
    rw [instant?_dateText_of_not_areDate fit areDate,
      instant?_text_of_not_areDate fitToo areNoDateToo]

end Timestamp

open Timestamp Text

/--
What timestamps stand for.  No text is read in two formats, and the formats may be
tried in any order.  Blanks around a timestamp make no difference.  A date with a
time of day is one instant in each layout, but for the offset, by which it is
shifted the other way; a date alone is its midnight; and a date that the calendar
does not have is none in any layout.
-/
theorem TimeSpec.resolve?_timestamp (now : Instant) :
    (∀ characters,
      formats.Pairwise fun first second =>
        first characters = none ∨ second characters = none) ∧
    (∀ (order : List (List Char → Option Instant)) (text : String),
      order.Perm formats →
        (timestamp text).resolve? now =
          order.findSome? fun format => format (trimBlanks text.toList)) ∧
    (∀ text front back : String,
      AllBlank front.toList → AllBlank back.toList →
        (timestamp (front ++ text ++ back)).resolve? now = (timestamp text).resolve? now) ∧
    (∀ fields : Fields,
      fields.FitDate → fields.AreDate → fields.AreClock →
        ∃ instant : Instant,
          instant.date = fields.date ∧ instant.secondOfDay = fields.secondOfDay ∧
            instant.nanos = 0 ∧
              ∀ layout : Layout,
                layout.IsProper →
                  (timestamp (String.ofList (layout.text fields))).resolve? now =
                    some ⟨instant.seconds - layout.secondsAhead, 0⟩) ∧
    (∀ fields : Fields,
      fields.FitDate →
        (timestamp (String.ofList fields.dateText)).resolve? now =
          (timestamp (String.ofList (Layout.spaced.text fields.atMidnight))).resolve? now) ∧
    ∀ fields : Fields,
      fields.FitDate → ¬ fields.AreDate →
        (timestamp (String.ofList fields.dateText)).resolve? now = none ∧
          ∀ layout : Layout,
            (timestamp (String.ofList (layout.text fields))).resolve? now = none := by
  simp only [resolve?]
  refine ⟨formats_pairwise, fun order text isPerm => ?_,
    fun text front back areBlank areBlankToo => ?_, fun fields fit areDate areClock => ?_,
    fun fields fit => instant?_dateText_eq fit, fun fields fit areNoDate => ?_⟩
  · rw [instant?_eq]
    exact findSome?_eq_of_perm isPerm.symm (formats_pairwise _)
  · rw [instant?_eq, instant?_eq, String.toList_append, String.toList_append,
      trimBlanks_append areBlank areBlankToo]
  · have isInDay := Fields.secondOfDay_lt areClock
    have isDate := Instant.date_ofDate areDate.isProper isInDay 0
    have isSecond := (@Instant.dayNumber_ofDate fields.date _ isInDay 0).2
    exact ⟨_, isDate, isSecond, rfl, fun layout => instant?_text fit areDate areClock⟩
  · exact ⟨instant?_dateText_of_not_areDate fit areNoDate,
      instant?_text_of_not_areDate fit areNoDate⟩

/-- Half past noon on a leap day, five and a half hours ahead, is seven in universal time. -/
theorem TimeSpec.resolve?_timestamp_leapDay :
    Fields.FitDate ⟨2024, 2, 29, 12, 30, 15⟩ ∧ Fields.AreDate ⟨2024, 2, 29, 12, 30, 15⟩ ∧
      Fields.AreClock ⟨2024, 2, 29, 12, 30, 15⟩ ∧ (Layout.ahead 5 30).IsProper ∧
        (timestamp "2024-02-29T12:30:15+05:30").resolve? ⟨0, 0⟩ = some ⟨1709190015, 0⟩ := by
  have fit : Fields.FitDate ⟨2024, 2, 29, 12, 30, 15⟩ := ⟨by decide, by decide, by decide⟩
  have areDate : Fields.AreDate ⟨2024, 2, 29, 12, 30, 15⟩ :=
    ⟨by decide, ⟨by decide, by decide⟩⟩
  have areClock : Fields.AreClock ⟨2024, 2, 29, 12, 30, 15⟩ :=
    ⟨by decide, by decide, by decide⟩
  have isProper : (Layout.ahead 5 30).IsProper := ⟨by decide, by decide⟩
  refine ⟨fit, areDate, areClock, isProper, ?_⟩
  obtain ⟨instant, isDate, isSecond, isWhole, isRead⟩ :=
    (resolve?_timestamp ⟨0, 0⟩).2.2.2.1 _ fit areDate areClock
  have isInstant : instant = ⟨1709209815, 0⟩ := by
    rw [← Instant.ofDate_date instant, isDate, isSecond, isWhole]
    decide +kernel
  have isShifted := isRead (.ahead 5 30) isProper
  rw [isInstant] at isShifted
  exact isShifted

end EventQuery
