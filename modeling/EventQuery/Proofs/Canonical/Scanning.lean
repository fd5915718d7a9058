import EventQuery.Canonical.Piece
import EventQuery.Proofs.Decimal.ReadBack
import EventQuery.Proofs.Expression.Shape
import EventQuery.Proofs.Keyword
import EventQuery.Proofs.Text.Blank
import EventQuery.Proofs.Text.Reading
import EventQuery.Proofs.Token.Scan
import EventQuery.Token.Lexer

/-!
# Pieces are scanned as tokens

A piece of canonical text is meant as one token.  This module says which one,
and shows that it is the token found at the start of the piece, as long as the
characters behind the piece do not run into it.
-/

namespace EventQuery

open Text Decimal

/-! ## Characters -/

theorem toNat_of_isAlpha {character : Char} (isAlpha : character.isAlpha = true) :
    65 ≤ character.toNat ∧ character.toNat ≤ 122 := by
  rcases Bool.or_eq_true_iff.mp isAlpha with isUpper | isLower
  · have bounds := of_decide_eq_true isUpper
    have least : 65 ≤ character.toNat := bounds.1
    have greatest : character.toNat ≤ 90 := bounds.2
    omega
  · obtain ⟨isAbove, isBelow⟩ := Bool.and_eq_true_iff.mp isLower
    have least : 97 ≤ character.toNat := of_decide_eq_true isAbove
    have greatest : character.toNat ≤ 122 := of_decide_eq_true isBelow
    omega

/-- Whether an ASCII word may start with the character. -/
def startsPlainWord (character : Char) : Bool :=
  character.isAlpha || character == '_'

/-- Whether an ASCII word may go on with the character. -/
def continuesPlainWord (character : Char) : Bool :=
  character.isAlphanum || character == '_'

theorem toNat_of_startsPlainWord {character : Char}
    (starts : startsPlainWord character = true) :
    65 ≤ character.toNat ∧ character.toNat ≤ 122 ∧ character ≠ '\x60' := by
  rcases Bool.or_eq_true_iff.mp starts with isAlpha | isUnderscore
  · refine ⟨(toNat_of_isAlpha isAlpha).1, (toNat_of_isAlpha isAlpha).2, ?_⟩
    rintro rfl
    cases isAlpha
  · rw [eq_of_beq isUnderscore]
    decide

theorem startsWord_of_startsPlainWord {character : Char}
    (starts : startsPlainWord character = true) :
    startsWord character = true := by
  have isAscii : character.toNat < 0x80 := by
    have := toNat_of_startsPlainWord starts
    omega
  simpa [startsWord, isLetter, isAscii, startsPlainWord] using starts

theorem continuesWord_of_continuesPlainWord {character : Char}
    (continues : continuesPlainWord character = true) :
    continuesWord character = true := by
  simp only [continuesPlainWord, Char.isAlphanum, Bool.or_eq_true, beq_iff_eq] at continues
  rcases continues with (isAlpha | isDigit) | rfl
  · have isAscii : character.toNat < 0x80 := by
      have := toNat_of_isAlpha isAlpha
      omega
    simp [continuesWord, isLetter, isAscii, isAlpha]
  · have isAscii : character.toNat < 0x80 := by
      have := toNat_of_isDigit isDigit
      omega
    simp [continuesWord, isNumeral, isAscii, isDigit]
  · rfl

/-- What may stand behind any piece: nothing, or one of the separating characters. -/
def IsSeparated (rest : List Char) : Prop :=
  ∀ character ∈ rest.head?, character ∈ [' ', ',', '(', ')']

theorem isStopped_of_isSeparated {condition : Char → Bool} {rest : List Char}
    (isSeparated : IsSeparated rest)
    (stops : [' ', ',', '(', ')'].all (fun character => !condition character) = true) :
    StopsAt condition rest := by
  intro character isHead
  have isStopped := List.all_eq_true.mp stops character (isSeparated character isHead)
  simpa using isStopped

/-- Where neither a blank nor a comment starts, there is no trivia. -/
theorem triviaItem?_eq_none {first : Char} {rest : List Char}
    (isVisible : isBlank first = false)
    (isNoDash : first = '-' → rest.head? ≠ some '-')
    (isNoSlash : first = '/' → rest.head? ≠ some '/' ∧ rest.head? ≠ some '*') :
    triviaItem? (first :: rest) = none := by
  unfold triviaItem?
  split <;> simp_all

/--
The first token of some characters, with no trivia in front of it: what it
says, its characters, and the characters behind it.
-/
def ScansAs (content : TokenContent) (lexeme rest : List Char) : Prop :=
  ∃ first others,
    lexeme ++ rest = first :: others ∧
      triviaItem? (first :: others) = none ∧
      scan first others = .ok ⟨content, lexeme, rest⟩

/-! ## Words -/

/-- Whether the characters are an ASCII word. -/
def isPlainWord : List Char → Bool
  | [] => false
  | first :: others => startsPlainWord first && others.all continuesPlainWord

theorem scan_word {first : Char} {others : List Char}
    (starts : startsPlainWord first = true) :
    scan first others = .ok (scanWord (first :: others)) := by
  obtain ⟨isAbove, isBelow, isNoBacktick⟩ := toNat_of_startsPlainWord starts
  have isNoQuote : isStringQuote first = false := by
    simp only [isStringQuote, Bool.or_eq_false_iff, beq_eq_false_iff_ne]
    constructor <;> rintro rfl <;> revert isAbove <;> decide
  have isNoDigit : first.isDigit = false := by
    refine Bool.eq_false_iff.mpr fun isDigit => ?_
    have := toNat_of_isDigit isDigit
    omega
  unfold scan
  simp [isNoQuote, isNoBacktick, isNoDigit, startsWord_of_startsPlainWord starts]

/-- The token content of a word. -/
def wordContent (word : String) : TokenContent :=
  match Keyword.ofText? word with
  | some keyword => .keyword keyword
  | none => .name word false

theorem IsSeparated.stopsWord {rest : List Char} (isSeparated : IsSeparated rest) :
    StopsAt continuesWord rest :=
  isStopped_of_isSeparated isSeparated (by decide +kernel)

theorem scansAs_word {word : String} {rest : List Char}
    (isWord : isPlainWord word.toList = true)
    (stops : StopsAt continuesWord rest) :
    ScansAs (wordContent word) word.toList rest := by
  cases equal : word.toList with
  | nil =>
      rw [equal] at isWord
      cases isWord
  | cons first others =>
      rw [equal] at isWord
      obtain ⟨starts, continues⟩ := Bool.and_eq_true_iff.mp isWord
      obtain ⟨isAbove, isBelow, _⟩ := toNat_of_startsPlainWord starts
      have allContinue :
          ∀ character ∈ first :: others, continuesWord character = true := by
        intro character isIn
        rcases List.mem_cons.mp isIn with rfl | isLater
        · exact continuesWord_of_startsWord (startsWord_of_startsPlainWord starts)
        · exact
            continuesWord_of_continuesPlainWord (List.all_eq_true.mp continues _ isLater)
      obtain ⟨taken, dropped⟩ :=
        takeWhile_append_of_stopsAt allContinue stops
      refine ⟨first, others ++ rest, rfl, ?_, ?_⟩
      · refine triviaItem?_eq_none (isBlank_eq_false (by omega) (by omega)) ?_ ?_
        · rintro rfl
          exact absurd isAbove (by decide)
        · rintro rfl
          exact absurd isAbove (by decide)
      · rw [scan_word starts, scanWord, ← List.cons_append, taken, dropped, ← equal,
          String.ofList_toList]
        rfl

theorem isPlainWord_timeUnit (amount : UInt64) (unit : TimeUnit) :
    isPlainWord (uppercase (unit.nameFor amount)).toList = true := by
  unfold TimeUnit.nameFor
  split <;> cases unit <;> simp [uppercase, TimeUnit.name] <;> decide

theorem isPlainWord_keyword (keyword : Keyword) :
    isPlainWord keyword.word.toList = true := by
  cases keyword with
  | anchorWord anchor => cases anchor <;> decide
  | unitWord unit => exact isPlainWord_timeUnit 1 unit
  | _ => decide

theorem wordContent_of_ofText? {word : String} {keyword : Keyword}
    (spells : Keyword.ofText? word = some keyword) :
    wordContent word = .keyword keyword := by
  rw [wordContent, spells]

theorem wordContent_of_none {word : String} (isNoKeyword : Keyword.ofText? word = none) :
    wordContent word = .name word false := by
  rw [wordContent, isNoKeyword]

theorem isPlainWord_of_isPlainName {name : String} (isPlain : isPlainName name = true) :
    isPlainWord name.toList = true := by
  unfold isPlainName at isPlain
  split at isPlain
  · cases isPlain
  · rename_i first others equal
    rw [equal]
    simp only [Bool.and_eq_true] at isPlain
    exact Bool.and_eq_true_iff.mpr isPlain.1.1.1

/-! ## Quoted names and strings -/

theorem scansAs_quotedName {name : String} (isName : IsName name) (rest : List Char) :
    ScansAs (.name name true) ("\x60" ++ name ++ "\x60").toList rest := by
  have isInside :
      ∀ character ∈ name.toList, (character != '\x60') = true := by
    intro character isIn
    refine bne_iff_ne.mpr ?_
    rintro rfl
    exact isName.2 isIn
  obtain ⟨taken, dropped⟩ :=
    @takeWhile_append_of_stopsAt _ name.toList ('\x60' :: rest) isInside (stopsAt_cons rfl)
  have isNonempty : name.toList.isEmpty = false := by
    simpa using isName.1
  refine ⟨'\x60', name.toList ++ '\x60' :: rest, by simp, ?_, ?_⟩
  · exact
      triviaItem?_eq_none (by decide) (fun equal => by cases equal) fun equal => by
        cases equal
  · have isBacktick :
        scan '\x60' (name.toList ++ '\x60' :: rest) =
          scanQuotedName (name.toList ++ '\x60' :: rest) :=
      rfl
    rw [isBacktick, scanQuotedName, taken, dropped]
    simp [isNonempty]

theorem scanString_plain {quote character : Char} {rest : List Char}
    (hasMore : rest ≠ [])
    (isNoQuote : character ≠ quote)
    (isNoEscape : character ≠ '\\') :
    scanString quote (character :: rest) =
      (scanString quote rest).map (StringBody.plain character) := by
  cases rest with
  | nil => exact absurd rfl hasMore
  | cons next rest => rw [scanString, if_neg isNoQuote, if_neg isNoEscape]

theorem scanString_escape (character : Char) (rest : List Char) :
    scanString '\'' ('\\' :: character :: rest) =
      (scanString '\'' rest).map (StringBody.escape character) := by
  rw [scanString, if_neg (by decide), if_pos rfl]

/-- The escape of a character is undone. -/
theorem scanString_escapedCharacter (character : Char) {rest : List Char}
    (hasMore : rest ≠ []) :
    scanString '\'' (escapedCharacter character ++ rest) =
      (scanString '\'' rest).map fun body =>
        ⟨character :: body.value, escapedCharacter character ++ body.lexeme, body.rest⟩ := by
  fun_cases escapedCharacter character
  case case6 isNoQuote isNoEscape _ _ _ =>
    rw [List.singleton_append, scanString_plain hasMore isNoQuote isNoEscape]
    rfl
  all_goals
    rw [List.cons_append, List.singleton_append, scanString_escape]
    rfl

/-- All escapes of a string are undone, up to its closing quote. -/
theorem scanString_escaped (value rest : List Char) :
    scanString '\'' (value.flatMap escapedCharacter ++ '\'' :: rest) =
      some ⟨value, value.flatMap escapedCharacter ++ ['\''], rest⟩ := by
  induction value with
  | nil => cases rest <;> rfl
  | cons character value ih =>
      rw [List.flatMap_cons, List.append_assoc, scanString_escapedCharacter _ (by simp), ih,
        Option.map_some, List.append_assoc]

theorem scansAs_string (value : String) (rest : List Char) :
    ScansAs (.string value) (stringText value).toList rest := by
  have body := scanString_escaped value.toList rest
  refine
    ⟨'\'', value.toList.flatMap escapedCharacter ++ '\'' :: rest, by simp [stringText],
      ?_, ?_⟩
  · exact
      triviaItem?_eq_none (by decide) (fun equal => by cases equal) fun equal => by
        cases equal
  · rw [scan, readString_start, if_pos (by decide), body]
    simp [stringText]

/-! ## Numbers -/

/-- A token that starts with a digit is a number. -/
theorem scansAs_of_scanNumber
    {content : TokenContent} {lexeme rest : List Char}
    (isNonempty : lexeme ≠ [])
    (startsWithDigit : ∀ character ∈ lexeme.head?, character.isDigit = true)
    (scanned : scanNumber (lexeme ++ rest) = .ok ⟨content, lexeme, rest⟩) :
    ScansAs content lexeme rest := by
  obtain ⟨first, others, rfl⟩ := List.exists_cons_of_ne_nil isNonempty
  have isDigit : first.isDigit = true := startsWithDigit first rfl
  obtain ⟨isAbove, isBelow⟩ := toNat_of_isDigit isDigit
  refine ⟨first, others ++ rest, rfl, ?_, ?_⟩
  · refine triviaItem?_eq_none (isBlank_eq_false (by omega) (by omega)) ?_ ?_
    · rintro rfl
      cases isDigit
    · rintro rfl
      cases isDigit
  · exact (scan_of_isDigit isDigit _).trans scanned

theorem scansAs_whole {value : Nat} {number : Number} {rest : List Char}
    (isValue : Number.ofInt? value = some number)
    (isSeparated : IsSeparated rest) :
    ScansAs (.number number) (naturalText value).toList rest := by
  have areDigits : ∀ character ∈ digits value, character.isDigit = true :=
    fun _ isIn => isDigit_of_mem_digits isIn
  have isNonempty : digits value ≠ [] := by simp [digits]
  rw [naturalText, String.toList_ofList]
  refine scansAs_of_scanNumber isNonempty (fun character isHead => ?_) ?_
  · exact areDigits character (List.mem_of_mem_head? isHead)
  · obtain ⟨taken, dropped⟩ :=
      takeWhile_append_of_stopsAt areDigits (isStopped_of_isSeparated isSeparated (by decide))
    have isNoFraction : fraction? rest = none := by
      fun_cases fraction? rest
      · exact absurd (isSeparated '.' rfl) (by decide)
      · rfl
      · rfl
    unfold scanNumber
    simp [leadingDigits, afterDigits, taken, dropped, isNoFraction, isValue]

theorem fraction?_append_rest {fraction rest : List Char}
    (isNonempty : fraction ≠ [])
    (areDigits : ∀ character ∈ fraction, character.isDigit = true)
    (isSeparated : IsSeparated rest) :
    fraction? ('.' :: (fraction ++ rest)) = some (fraction, rest) := by
  obtain ⟨first, others, rfl⟩ := List.exists_cons_of_ne_nil isNonempty
  obtain ⟨isDigit, areDigits⟩ := List.forall_mem_cons.mp areDigits
  obtain ⟨taken, dropped⟩ :=
    takeWhile_append_of_stopsAt areDigits (isStopped_of_isSeparated isSeparated (by decide))
  simp [fraction?, isDigit, leadingDigits, afterDigits, taken, dropped]

theorem scansAs_decimal {rank : Nat} {rest : List Char}
    (isFinite : rank < infinityRank)
    (isSeparated : IsSeparated rest) :
    ScansAs (.number (.float (.ofRank false rank)))
      (literalLayout.text (.ofRank false rank)).toList rest := by
  obtain ⟨whole, fraction, equal, pointed⟩ := exists_pointedText_literal isFinite
  rw [equal]
  refine scansAs_of_scanNumber (by simp) (fun character isHead => ?_) ?_
  · obtain ⟨first, others, rfl⟩ := List.exists_cons_of_ne_nil pointed.hasWhole
    cases isHead
    exact pointed.isWhole _ List.mem_cons_self
  · obtain ⟨taken, dropped⟩ :=
      @takeWhile_append_of_stopsAt _ whole ('.' :: (fraction ++ rest)) pointed.isWhole
        (stopsAt_cons rfl)
    have hasFraction :=
      fraction?_append_rest pointed.hasFraction pointed.isFraction isSeparated
    unfold scanNumber
    rw [List.append_assoc, List.cons_append]
    simp [leadingDigits, afterDigits, taken, dropped, hasFraction, Binary64.ofDecimal,
      pointed.reads]

/-! ## Symbols -/

/-- A symbol of one character, with nothing behind it that would make it longer. -/
theorem scansAs_narrow
    {content : TokenContent} {symbol : Char} {rest : List Char}
    (isSymbol : narrowSymbol? symbol = some content)
    (isNarrow : ∀ character ∈ rest.head?, wideComparison? symbol character = none)
    (isNoDash : symbol = '-' → rest.head? ≠ some '-')
    (isNoSlash : symbol = '/' → rest.head? ≠ some '/' ∧ rest.head? ≠ some '*') :
    ScansAs content [symbol] rest := by
  have isVisible : isBlank symbol = false := by
    unfold narrowSymbol? at isSymbol
    split at isSymbol <;> first | decide | cases isSymbol
  refine ⟨symbol, rest, rfl, triviaItem?_eq_none isVisible isNoDash isNoSlash, ?_⟩
  have isScanned : scan symbol rest = scanSymbol symbol rest := by
    have isOther :
        isStringQuote symbol = false ∧ symbol ≠ '\x60' ∧ symbol.isDigit = false ∧
          startsWord symbol = false := by
      unfold narrowSymbol? at isSymbol
      split at isSymbol <;> first | decide +kernel | cases isSymbol
    obtain ⟨isNoQuote, isNoBacktick, isNoDigit, isNoWord⟩ := isOther
    unfold scan
    rw [if_neg (by simp [isNoQuote]), if_neg isNoBacktick, if_neg (by simp [isNoDigit]),
      if_neg (by simp [isNoWord]), if_neg fun both => (isNoSlash both.1).2 both.2]
  rw [isScanned]
  cases rest with
  | nil => simp [scanSymbol, scanNarrow, isSymbol]
  | cons next rest => simp [scanSymbol, scanNarrow, isSymbol, isNarrow next rfl]

theorem scansAs_comparison {comparison : Comparison} {rest : List Char}
    (isSeparated : IsSeparated rest) :
    ScansAs (.comparison comparison) comparison.symbol.toList rest := by
  have narrow {symbol : Char}
      (isSymbol : narrowSymbol? symbol = some (.comparison comparison))
      (isNarrow :
        [' ', ',', '(', ')'].all (fun next => (wideComparison? symbol next).isNone) = true)
      (isNoTrivia : symbol ≠ '-' ∧ symbol ≠ '/') :
      ScansAs (.comparison comparison) [symbol] rest := by
    refine
      scansAs_narrow isSymbol (fun next isHead => ?_) (fun equal => absurd equal isNoTrivia.1)
        fun equal => absurd equal isNoTrivia.2
    exact Option.isNone_iff_eq_none.mp
      (List.all_eq_true.mp isNarrow next (isSeparated next isHead))
  cases comparison with
  | equal => exact narrow rfl (by decide) (by decide)
  | notEqual => exact ⟨'!', '=' :: rest, rfl, by simp [triviaItem?, isBlank_eq_false], rfl⟩
  | less => exact narrow rfl (by decide) (by decide)
  | lessOrEqual => exact ⟨'<', '=' :: rest, rfl, by simp [triviaItem?, isBlank_eq_false], rfl⟩
  | greater => exact narrow rfl (by decide) (by decide)
  | greaterOrEqual =>
      exact ⟨'>', '=' :: rest, rfl, by simp [triviaItem?, isBlank_eq_false], rfl⟩

/-- An arithmetic operator stands in front of a space, or is a sign without a second one. -/
theorem scansAs_arithmetic {operator : Arithmetic} {rest : List Char}
    (isApart : IsSeparated rest ∨ operator = .subtract ∧ rest.head? ≠ some '-') :
    ScansAs (.arithmetic operator) operator.symbol.toList rest := by
  have isNoDash : rest.head? ≠ some '-' := by
    rcases isApart with isSeparated | ⟨_, isNoDash⟩
    · exact fun isHead => absurd (isSeparated '-' isHead) (by decide)
    · exact isNoDash
  cases operator with
  | add => exact @scansAs_narrow _ '+' rest rfl (by simp [wideComparison?]) (by simp) (by simp)
  | subtract =>
      exact
        @scansAs_narrow _ '-' rest rfl (by simp [wideComparison?]) (fun _ => isNoDash)
          (by simp)
  | multiply =>
      exact @scansAs_narrow _ '*' rest rfl (by simp [wideComparison?]) (by simp) (by simp)
  | divide =>
      have isSeparated : IsSeparated rest := by
        rcases isApart with isSeparated | ⟨isSubtract, _⟩
        · exact isSeparated
        · cases isSubtract
      refine
        @scansAs_narrow _ '/' rest rfl (by simp [wideComparison?]) (by simp) fun _ => ⟨?_, ?_⟩
      · exact fun isHead => absurd (isSeparated '/' isHead) (by decide)
      · exact fun isHead => absurd (isSeparated '*' isHead) (by decide)

theorem scansAs_comma (rest : List Char) : ScansAs .comma [','] rest :=
  scansAs_narrow rfl (by simp [wideComparison?]) (by simp) (by simp)

theorem scansAs_leftParenthesis (rest : List Char) : ScansAs .leftParenthesis ['('] rest :=
  scansAs_narrow rfl (by simp [wideComparison?]) (by simp) (by simp)

theorem scansAs_rightParenthesis (rest : List Char) : ScansAs .rightParenthesis [')'] rest :=
  scansAs_narrow rfl (by simp [wideComparison?]) (by simp) (by simp)

theorem literalText_of_infinite {rank : Nat} (isInfinite : infinityRank ≤ rank) :
    literalLayout.text (.ofRank false rank) = "inf" := by
  have isClipped : min rank infinityRank = infinityRank := Nat.min_eq_right isInfinite
  have isNotFinite : (Binary64.ofRank false rank).isFinite = false := by
    rw [Binary64.isFinite, Binary64.ofRank]
    simp only [isClipped, Nat.lt_irrefl, decide_false]
  rw [Layout.text, isNotFinite]
  rfl

/-! ## Pieces -/

/-- What a piece is read as, by itself. -/
inductive Piece.ReadsAs : Piece → TokenContent → Prop where
  | keyword {word : Keyword} : ReadsAs (.keyword word) (.keyword word)
  | timeUnit {amount : UInt64} {unit : TimeUnit} :
      ReadsAs (.timeUnit amount unit) (.keyword (.unitWord unit))
  | plainName {name : String}
      (isPlain : isPlainName name = true)
      (isNoKeyword : Keyword.ofText? name = none) :
      ReadsAs (.name name) (.name name false)
  | keywordName {name : String} {word : Keyword}
      (isPlain : isPlainName name = true)
      (isKeyword : Keyword.ofText? name = some word) :
      ReadsAs (.name name) (.keyword word)
  | quotedName {name : String}
      (isQuoted : isPlainName name = false)
      (isName : IsName name) :
      ReadsAs (.name name) (.name name true)
  | string {value : String} : ReadsAs (.string value) (.string value)
  | boolean {value : Bool} :
      ReadsAs (.boolean value) (.name (if value then "true" else "false") false)
  | whole {value : Nat} {number : Number}
      (isValue : Number.ofInt? value = some number) :
      ReadsAs (.whole value) (.number number)
  | decimal {rank : Nat}
      (isFinite : rank < infinityRank) :
      ReadsAs (.decimal rank) (.number (.float (.ofRank false rank)))
  /-- Infinity has no numeral; its text is a name. -/
  | infinity {rank : Nat}
      (isInfinite : infinityRank ≤ rank) :
      ReadsAs (.decimal rank) (.name "inf" false)
  | comparison {operator : Comparison} :
      ReadsAs (.comparison operator) (.comparison operator)
  | arithmetic {operator : Arithmetic} :
      ReadsAs (.arithmetic operator) (.arithmetic operator)
  | comma : ReadsAs .comma .comma
  | leftParenthesis : ReadsAs .leftParenthesis .leftParenthesis
  | rightParenthesis : ReadsAs .rightParenthesis .rightParenthesis

namespace Piece

/-- Whether the piece keeps the pieces around it apart. -/
def isSeparator : Piece → Bool
  | space => true
  | comma => true
  | leftParenthesis => true
  | rightParenthesis => true
  | _ => false

/--
Whether the characters do not run into the piece in front of them: one of the
two separates, or the piece is a minus sign and no other one follows.
-/
def IsApart (piece : Piece) (rest : List Char) : Prop :=
  piece.isSeparator = true ∨ IsSeparated rest ∨
    piece = .arithmetic .subtract ∧ rest.head? ≠ some '-'

/-- A piece is scanned as the token that it is read as. -/
theorem ReadsAs.scansAs {piece : Piece} {content : TokenContent} {rest : List Char}
    (reads : piece.ReadsAs content)
    (isApart : piece.IsApart rest) :
    ScansAs content piece.text.toList rest := by
  have isSeparated (isOther : piece.isSeparator = false)
      (isNoMinus : piece ≠ .arithmetic .subtract) : IsSeparated rest := by
    rcases isApart with isSeparator | isSeparated | ⟨isMinus, _⟩
    · rw [isOther] at isSeparator
      cases isSeparator
    · exact isSeparated
    · exact absurd isMinus isNoMinus
  have stopsWord (isOther : piece.isSeparator = false)
      (isNoMinus : piece ≠ .arithmetic .subtract) : StopsAt continuesWord rest :=
    (isSeparated isOther isNoMinus).stopsWord
  cases reads with
  | @keyword word =>
      rw [← wordContent_of_ofText? word.ofText?_word]
      exact scansAs_word (isPlainWord_keyword word) (stopsWord rfl (by simp))
  | @timeUnit amount unit =>
      rw [← wordContent_of_ofText? (Keyword.ofText?_timeUnit amount unit)]
      exact scansAs_word (isPlainWord_timeUnit amount unit) (stopsWord rfl (by simp))
  | @plainName name isPlain isNoKeyword =>
      rw [← wordContent_of_none isNoKeyword, text, nameText, if_pos isPlain]
      exact scansAs_word (isPlainWord_of_isPlainName isPlain) (stopsWord rfl (by simp))
  | @keywordName name word isPlain isKeyword =>
      rw [← wordContent_of_ofText? isKeyword, text, nameText, if_pos isPlain]
      exact scansAs_word (isPlainWord_of_isPlainName isPlain) (stopsWord rfl (by simp))
  | @quotedName name isQuoted isName =>
      rw [text, nameText, if_neg (by simp [isQuoted])]
      exact scansAs_quotedName isName rest
  | @string value => exact scansAs_string value rest
  | @boolean value =>
      have isNoKeyword : Keyword.ofText? (if value then "true" else "false") = none := by
        refine Keyword.ofText?_eq_none_iff.mpr ?_
        cases value <;> decide +kernel
      rw [← wordContent_of_none isNoKeyword]
      refine scansAs_word ?_ (stopsWord rfl (by simp))
      cases value <;> decide
  | whole isValue => exact scansAs_whole isValue (isSeparated rfl (by simp))
  | decimal isFinite => exact scansAs_decimal isFinite (isSeparated rfl (by simp))
  | @infinity rank isInfinite =>
      have isNoKeyword : Keyword.ofText? "inf" = none :=
        Keyword.ofText?_eq_none_iff.mpr (by decide +kernel)
      rw [text, literalText_of_infinite isInfinite, ← wordContent_of_none isNoKeyword]
      exact scansAs_word (by decide) (stopsWord rfl (by simp))
  | comparison => exact scansAs_comparison (isSeparated rfl (by simp))
  | @arithmetic operator =>
      refine scansAs_arithmetic ?_
      rcases isApart with isSeparator | isSeparated | ⟨isMinus, isNoDash⟩
      · cases isSeparator
      · exact Or.inl isSeparated
      · exact Or.inr ⟨arithmetic.inj isMinus, isNoDash⟩
  | comma => exact scansAs_comma rest
  | leftParenthesis => exact scansAs_leftParenthesis rest
  | rightParenthesis => exact scansAs_rightParenthesis rest

end Piece

end EventQuery
