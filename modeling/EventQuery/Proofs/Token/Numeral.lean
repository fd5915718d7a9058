import EventQuery.Proofs.Decimal.Overflow
import EventQuery.Proofs.Number
import EventQuery.Proofs.Text.Reading
import EventQuery.Proofs.Token.Items

/-!
# Numerals

A numeral is what a number of a query is written as: digits, and perhaps a point
and more digits.  A numeral without a point is a whole number and is refused if
it has no 64 bits; one with a point is rounded and never refused, so from some
magnitude on it is infinite.
-/

namespace EventQuery

open Decimal Text

/-- Digits, and perhaps digits behind a point. -/
structure Numeral where
  whole : List Char
  /-- The digits behind the point; without a point there are none. -/
  fraction : List Char
  hasWhole : whole ≠ []
  isWhole : ∀ character ∈ whole, character.isDigit = true
  isFraction : ∀ character ∈ fraction, character.isDigit = true

/-- The digits of a fraction behind a point, if there are any. -/
def pointed : List Char → List Char
  | [] => []
  | digit :: others => '.' :: digit :: others

namespace Numeral

/-- The characters of a numeral. -/
def lexeme (numeral : Numeral) : List Char :=
  numeral.whole ++ pointed numeral.fraction

/-- The characters of a numeral as a text. -/
def text (numeral : Numeral) : String :=
  String.ofList numeral.lexeme

/-- The number that the digits of a numeral write without the point. -/
def significand (numeral : Numeral) : Nat :=
  ofDigits (numeral.whole ++ numeral.fraction)

/-- A numeral of a whole number that has no 64 bits. -/
def IsOutOfRange (numeral : Numeral) : Prop :=
  numeral.fraction = [] ∧ Int64.maxValue.toInt < numeral.significand

/-- A numeral with a point that is rounded to infinity. -/
def Overflows (numeral : Numeral) : Prop :=
  numeral.fraction ≠ [] ∧
    tenTo numeral.fraction.length * overflowBound ≤ numeral.significand

/-- No character behind a numeral goes on with it. -/
structure EndsAt (numeral : Numeral) (rest : List Char) : Prop where
  isNoDigit : StopsAt Char.isDigit rest
  isNoPoint :
    numeral.fraction = [] →
      ∀ (digit : Char) (others : List Char), rest = '.' :: digit :: others →
        digit.isDigit = false

/-- A number that a numeral writes: exactly, or rounded if there is a point. -/
def Writes (numeral : Numeral) (value : Number) : Prop :=
  (numeral.fraction = [] ∧
      ∃ whole : Int64, value = .integer whole ∧ whole.toInt = numeral.significand) ∨
    (numeral.fraction ≠ [] ∧
      value =
        .float (.ofDecimal false numeral.significand (-numeral.fraction.length)))

/-! ## The characters of a numeral -/

theorem isDigit_of_mem_leadingDigits (characters : List Char) :
    ∀ character ∈ leadingDigits characters, character.isDigit = true :=
  fun _ isIn => List.all_eq_true.mp List.all_takeWhile _ isIn

theorem stopsAt_afterDigits (characters : List Char) :
    StopsAt Char.isDigit (afterDigits characters) := by
  intro character isHead
  have stops := List.head?_dropWhile_not Char.isDigit characters
  rw [afterDigits, Option.mem_def] at isHead
  rwa [isHead] at stops

/-- A point is part of a numeral only in front of a digit. -/
theorem fraction?_eq_none_iff {characters : List Char} :
    fraction? characters = none ↔
      ∀ (digit : Char) (others : List Char), characters = '.' :: digit :: others →
        digit.isDigit = false := by
  constructor
  · rintro isNone digit others rfl
    cases isDigit : digit.isDigit with
    | false => rfl
    | true => simp [fraction?, isDigit] at isNone
  · intro isNoDigit
    unfold fraction?
    split
    · rename_i digit others
      simp [isNoDigit digit others rfl]
    · rfl

variable {numeral : Numeral} {rest : List Char}

/-- Digits in front of what is no digit are a numeral, perhaps with a fraction. -/
theorem exists_of_isDigit {first : Char} (isDigit : first.isDigit = true) (rest : List Char) :
    ∃ numeral after, first :: rest = lexeme numeral ++ after ∧ numeral.EndsAt after := by
  have split := @List.takeWhile_append_dropWhile _ Char.isDigit (first :: rest)
  have hasWhole : leadingDigits (first :: rest) ≠ [] := by
    simp [leadingDigits, isDigit]
  cases isFraction : fraction? (afterDigits (first :: rest)) with
  | none =>
      let numeral : Numeral :=
        ⟨leadingDigits (first :: rest), [], hasWhole, isDigit_of_mem_leadingDigits _,
          List.forall_mem_nil _⟩
      refine ⟨numeral, afterDigits (first :: rest), ?_, stopsAt_afterDigits _,
        fun _ => fraction?_eq_none_iff.mp isFraction⟩
      rw [lexeme, pointed, List.append_nil]
      exact split.symm
  | some found =>
      obtain ⟨fraction, after⟩ := found
      have behind := fraction?_append isFraction
      unfold fraction? at isFraction
      split at isFraction
      · rename_i digit others isAfter
        obtain ⟨isFirst, same⟩ := Option.ite_none_right_eq_some.mp isFraction
        cases same
        let numeral : Numeral :=
          ⟨leadingDigits (first :: rest), digit :: leadingDigits others, hasWhole,
            isDigit_of_mem_leadingDigits _,
            List.forall_mem_cons.mpr ⟨isFirst, isDigit_of_mem_leadingDigits others⟩⟩
        refine ⟨numeral, afterDigits others, ?_, stopsAt_afterDigits others,
          fun isNone => absurd isNone (List.cons_ne_nil _ _)⟩
        rw [← split]
        change leadingDigits (first :: rest) ++ afterDigits (first :: rest) = _
        rw [← behind]
        simp [lexeme, pointed, numeral]
      · cases isFraction

/-- The digits in front are the whole part, and nothing is lost behind them. -/
theorem leadingDigits_lexeme (ends : numeral.EndsAt rest) :
    leadingDigits (numeral.lexeme ++ rest) = numeral.whole ∧
      afterDigits (numeral.lexeme ++ rest) = pointed numeral.fraction ++ rest := by
  have stops : StopsAt Char.isDigit (pointed numeral.fraction ++ rest) := by
    cases numeral.fraction with
    | nil => exact ends.isNoDigit
    | cons digit others => exact stopsAt_cons rfl
  rw [lexeme, List.append_assoc]
  exact takeWhile_append_of_stopsAt numeral.isWhole stops

theorem pointed_injective {fraction other : List Char}
    (same : pointed fraction = pointed other) :
    fraction = other := by
  cases fraction <;> cases other <;> simp_all [pointed]

/-- Nothing goes on at the end of a text. -/
theorem endsAt_nil (numeral : Numeral) : numeral.EndsAt [] :=
  ⟨stopsAt_nil _, fun _ _ _ isCons => nomatch isCons⟩

/-- Two numerals with the same characters are the same. -/
theorem eq_of_lexeme_eq {other : Numeral} (same : numeral.lexeme = other.lexeme) :
    numeral = other := by
  obtain ⟨whole, after⟩ := leadingDigits_lexeme numeral.endsAt_nil
  obtain ⟨otherWhole, otherAfter⟩ := leadingDigits_lexeme other.endsAt_nil
  rw [same, otherWhole] at whole
  rw [same, otherAfter, List.append_nil, List.append_nil] at after
  have fraction := pointed_injective after
  cases numeral
  cases other
  cases whole
  cases fraction
  rfl

/-- The fraction of a numeral is read as a whole. -/
theorem fraction?_pointed (ends : numeral.EndsAt rest) :
    fraction? (pointed numeral.fraction ++ rest) =
      if numeral.fraction = [] then none else some (numeral.fraction, rest) := by
  have areDigits := numeral.isFraction
  cases fraction : numeral.fraction with
  | nil => exact fraction?_eq_none_iff.mpr (ends.isNoPoint fraction)
  | cons digit others =>
      rw [fraction] at areDigits
      obtain ⟨isDigit, areDigits⟩ := List.forall_mem_cons.mp areDigits
      obtain ⟨taken, dropped⟩ := takeWhile_append_of_stopsAt areDigits ends.isNoDigit
      simp [pointed, fraction?, isDigit, leadingDigits, afterDigits, taken, dropped]

/-! ## The number of a numeral -/

/-- What reading a numeral comes to, whatever is behind it. -/
theorem scanNumber_lexeme (ends : numeral.EndsAt rest) :
    (∃ value, numeral.Writes value ∧
        scanNumber (numeral.lexeme ++ rest) = .ok ⟨.number value, numeral.lexeme, rest⟩) ∨
      numeral.IsOutOfRange ∧
        scanNumber (numeral.lexeme ++ rest) = .error (.numberOutOfRange numeral.lexeme) := by
  obtain ⟨whole, after⟩ := leadingDigits_lexeme ends
  have isFraction := fraction?_pointed ends
  unfold scanNumber
  rw [whole, after, isFraction]
  by_cases hasFraction : numeral.fraction = []
  · have lexeme_eq : numeral.lexeme = numeral.whole := by
      rw [lexeme, hasFraction, pointed, List.append_nil]
    have significand_eq : ofDigits numeral.whole = numeral.significand := by
      rw [significand, hasFraction, List.append_nil]
    rw [if_pos hasFraction, hasFraction, lexeme_eq]
    dsimp only
    rw [significand_eq]
    cases fits : Number.ofInt? numeral.significand with
    | some value =>
        obtain ⟨whole, rfl, isValue⟩ := Number.ofInt?_eq_some_iff.mp fits
        exact Or.inl ⟨_, Or.inl ⟨hasFraction, whole, rfl, isValue⟩, rfl⟩
    | none =>
        refine Or.inr ⟨⟨hasFraction, Int.not_le.mp fun isBelow => ?_⟩, rfl⟩
        have isAbove : Int64.minValue.toInt ≤ numeral.significand :=
          Int.le_trans (of_decide_eq_true rfl) (Int.natCast_nonneg _)
        obtain ⟨value, isValue⟩ := Number.exists_ofInt? isAbove isBelow
        rw [fits] at isValue
        cases isValue
  · have lexeme_eq : numeral.lexeme = numeral.whole ++ '.' :: numeral.fraction := by
      rw [lexeme]
      cases fraction : numeral.fraction with
      | nil => exact absurd fraction hasFraction
      | cons digit others => rfl
    rw [if_neg hasFraction, lexeme_eq]
    exact Or.inl ⟨_, Or.inr ⟨hasFraction, rfl⟩, rfl⟩

theorem not_isOutOfRange_of_writes {value : Number} (writes : numeral.Writes value) :
    ¬ numeral.IsOutOfRange := by
  rintro ⟨hasNoFraction, isTooLarge⟩
  rcases writes with ⟨_, whole, _, isValue⟩ | ⟨hasFraction, _⟩
  · have isBelow := whole.toInt_le
    omega
  · exact hasFraction hasNoFraction

/-- The number that a numeral writes is infinite exactly if the numeral overflows. -/
theorem isFinite_eq_false_iff {value : Number} (writes : numeral.Writes value) :
    value.isFinite = false ↔ numeral.Overflows := by
  rcases writes with ⟨hasNoFraction, whole, rfl, _⟩ | ⟨hasFraction, rfl⟩
  · refine iff_of_false Bool.noConfusion ?_
    rintro ⟨hasFraction, _⟩
    exact hasFraction hasNoFraction
  · have isFinite_iff :=
      Binary64.isFinite_ofDecimal_iff numeral.significand numeral.fraction.length
    rw [← Nat.not_le] at isFinite_iff
    simp only [Number.isFinite, Overflows, ne_eq, hasFraction, not_false_eq_true, true_and]
    rw [← Bool.not_eq_true, isFinite_iff]
    exact Decidable.not_not

/-! ## Tokens of numerals -/

/-- A numeral starts with a digit. -/
theorem exists_lexeme_append (numeral : Numeral) (rest : List Char) :
    ∃ first others, first.isDigit = true ∧ numeral.lexeme ++ rest = first :: others := by
  obtain ⟨first, others, whole⟩ := List.exists_cons_of_ne_nil numeral.hasWhole
  refine ⟨first, others ++ pointed numeral.fraction ++ rest, ?_, ?_⟩
  · exact numeral.isWhole first (whole ▸ List.mem_cons_self)
  · rw [lexeme, whole]
    rfl

/-- The token of a numeral, or the error that stands at its first digit. -/
theorem nextToken_lexeme {lexer : Lexer}
    (ends : numeral.EndsAt rest)
    (isAt : (skipTrivia lexer.rest).2 = numeral.lexeme ++ rest) :
    (∃ value, numeral.Writes value ∧
        lexer.nextToken.1 =
          .ok ⟨.number value, numeral.text,
            lexer.position.after (skipTrivia lexer.rest).1⟩) ∨
      numeral.IsOutOfRange ∧
        lexer.nextToken.1 =
          .error (.lex (lexer.position.after (skipTrivia lexer.rest).1)
            (.numberOutOfRange numeral.lexeme)) := by
  obtain ⟨first, others, isDigit, starts⟩ := exists_lexeme_append numeral rest
  unfold Lexer.nextToken
  simp only [isAt, starts, scan_of_isDigit isDigit]
  rcases scanNumber_lexeme ends with ⟨value, writes, isRead⟩ | ⟨isTooLarge, isRefused⟩
  · rw [← starts, isRead]
    exact Or.inl ⟨value, writes, rfl⟩
  · rw [← starts, isRefused]
    exact Or.inr ⟨isTooLarge, rfl⟩

/-- A token that starts with a digit is one of a numeral. -/
theorem exists_of_scan {first : Char} {others : List Char} {scanned : Scanned}
    (isDigit : first.isDigit = true)
    (found : scan first others = .ok scanned) :
    ∃ numeral value, scanned.lexeme = lexeme numeral ∧ numeral.Writes value ∧
      scanned.content = .number value := by
  obtain ⟨numeral, after, starts, ends⟩ := exists_of_isDigit isDigit others
  rw [scan_of_isDigit isDigit, starts] at found
  rcases scanNumber_lexeme ends with ⟨value, writes, isRead⟩ | ⟨_, isRefused⟩
  · rw [isRead] at found
    cases found
    exact ⟨numeral, value, rfl, writes, rfl⟩
  · rw [isRefused] at found
    cases found

end Numeral

theorem isDigit_of_scan_number {first : Char} {rest : List Char} {scanned : Scanned}
    {value : Number}
    (found : scan first rest = .ok scanned)
    (isNumber : scanned.content = .number value) :
    first.isDigit = true := by
  have scans := scansTo_scan first rest
  rw [found] at scans
  cases scans with
  | decimal isDigit isFraction => exact isDigit
  | whole isDigit isNoFraction fits => exact isDigit
  | word starts =>
      rcases content_scanWord (first :: rest) with ⟨word, isWord⟩ | isName
      · cases isWord.symm.trans isNumber
      · cases isName.symm.trans isNumber
  | narrowSymbol isSymbol =>
      cases isNumber
      cases isSymbol_of_narrowSymbol? isSymbol
  | _ => cases isNumber

/-! ## Tokens of a text -/

namespace Token.IsScanned

variable {token : Token}

/-- What a token with the characters of a numeral says. -/
theorem number_of_text (isScanned : token.IsScanned) {numeral : Numeral}
    (isText : token.text = numeral.text) :
    ∃ value, numeral.Writes value ∧ token.content = .number value := by
  obtain ⟨first, rest, scanned, found, content, text⟩ := isScanned
  have lexeme : numeral.lexeme = scanned.lexeme := by
    have same := isText.symm.trans text
    simpa only [Numeral.text, String.toList_ofList] using congrArg String.toList same
  obtain ⟨digit, others, isDigit, starts⟩ := numeral.exists_lexeme_append scanned.rest
  have all := scan_append found
  rw [← lexeme, starts] at all
  cases all
  obtain ⟨same, value, isLexeme, writes, isNumber⟩ := Numeral.exists_of_scan isDigit found
  obtain rfl := Numeral.eq_of_lexeme_eq (lexeme.trans isLexeme)
  exact ⟨value, writes, content.trans isNumber⟩

/-- A token that says a number has the characters of a numeral. -/
theorem exists_numeral (isScanned : token.IsScanned) {value : Number}
    (isNumber : token.content = .number value) :
    ∃ numeral : Numeral, token.text = numeral.text ∧ numeral.Writes value := by
  obtain ⟨first, rest, scanned, found, content, text⟩ := isScanned
  have isDigit := isDigit_of_scan_number found (content.symm.trans isNumber)
  obtain ⟨numeral, written, isLexeme, writes, isWritten⟩ := Numeral.exists_of_scan isDigit found
  refine ⟨numeral, ?_, ?_⟩
  · rw [text, isLexeme]
    rfl
  · rw [← content, isNumber] at isWritten
    cases isWritten
    exact writes

end Token.IsScanned

end EventQuery
