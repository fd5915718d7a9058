import Mathlib
import EventQuery.Proofs.Canonical.Lexing
import EventQuery.Proofs.Token.Layout
import EventQuery.Proofs.Token.Numeral
import EventQuery.Proofs.Token.Trivia

/-!
# Tokens with other gaps between them

Where a token ends is settled by its own characters as soon as a blank stands behind
it.  So the tokens of a text are read again, one for one, from any text that has them
in the same order with a blank and any more blanks and whole comments between them:
`items_of_isSpaced`.
-/

namespace EventQuery

open Text

/-! ## Blanks behind a token -/

/-- No character lies in an interval of each of two tables that share no code point. -/
theorem liesIn_eq_false_of_apart {first second : List Interval} {character : Char}
    (areApart :
      ∀ interval ∈ first, ∀ other ∈ second, interval.2 < other.1 ∨ other.2 < interval.1)
    (isIn : liesIn first character = true) :
    liesIn second character = false := by
  obtain ⟨interval, isInterval, isInside⟩ := List.any_eq_true.mp isIn
  refine List.any_eq_false.mpr fun other isOther isInsideToo => ?_
  simp only [Bool.and_eq_true, decide_eq_true_eq] at isInside isInsideToo
  rcases areApart interval isInterval other isOther with isBelow | isAbove <;> omega

/-- A blank is no part of a word. -/
theorem continuesWord_of_isBlank {character : Char} (blank : isBlank character = true) :
    continuesWord character = false := by
  have isNoLetter : isLetter character = false := by
    unfold isLetter
    split
    · refine Bool.eq_false_iff.mpr fun isAlpha => ?_
      have ⟨isAbove, isBelow⟩ := toNat_of_isAlpha isAlpha
      rw [isBlank_eq_false (by omega) (by omega)] at blank
      cases blank
    · exact liesIn_eq_false_of_apart (by decide +kernel) blank
  have isNoNumeral : isNumeral character = false := by
    unfold isNumeral
    split
    · refine Bool.eq_false_iff.mpr fun isDigit => ?_
      rw [isBlank_of_isDigit isDigit] at blank
      cases blank
    · exact liesIn_eq_false_of_apart (by decide +kernel) blank
  have isNoUnderscore : character ≠ '_' := by
    rintro rfl
    cases blank
  simp [continuesWord, isNoLetter, isNoNumeral, isNoUnderscore]

/-- Nothing, or characters of which the first is a blank. -/
def StartsBlank (rest : List Char) : Prop :=
  ∀ character ∈ rest.head?, isBlank character = true

namespace StartsBlank

variable {rest : List Char}

theorem stopsAt_continuesWord (startsBlank : StartsBlank rest) : StopsAt continuesWord rest :=
  fun character isHead => continuesWord_of_isBlank (startsBlank character isHead)

/-- No visible character stands at the start. -/
theorem head?_ne (startsBlank : StartsBlank rest) {character : Char}
    (isVisible : isBlank character = false) :
    rest.head? ≠ some character := by
  intro isHead
  have blank := startsBlank character isHead
  rw [isVisible] at blank
  cases blank

/-- A blank ends every numeral. -/
theorem endsAt (startsBlank : StartsBlank rest) (numeral : Numeral) : numeral.EndsAt rest where
  isNoDigit := by
    intro character isHead
    refine Bool.eq_false_iff.mpr fun isDigit => ?_
    exact startsBlank.head?_ne (isBlank_of_isDigit isDigit) isHead
  isNoPoint := by
    rintro - digit others rfl
    exact absurd rfl (startsBlank.head?_ne (show isBlank '.' = false from by decide))

/-- A blank makes no symbol longer. -/
theorem wideComparison?_eq_none (startsBlank : StartsBlank rest) (first : Char) :
    ∀ second ∈ rest.head?, wideComparison? first second = none := by
  intro second isHead
  have isNoEqual : second ≠ '=' := by
    rintro rfl
    exact startsBlank.head?_ne (by decide) isHead
  have isNoGreater : second ≠ '>' := by
    rintro rfl
    exact startsBlank.head?_ne (by decide) isHead
  unfold wideComparison?
  split <;> simp_all

end StartsBlank

/-! ## Tokens in front of a blank -/

/-- A string ends with its closing quote, whatever stands behind it. -/
theorem scanString_lexeme {quote : Char} {characters : List Char} {body : StringBody}
    (closes : scanString quote characters = some body)
    (rest : List Char) :
    scanString quote (body.lexeme ++ rest) = some ⟨body.value, body.lexeme, rest⟩ := by
  fun_induction scanString quote characters generalizing body with
  | case1 => cases closes
  | case2 =>
      cases closes
      cases rest <;> simp [scanString]
  | case3 => cases closes
  | case4 =>
      cases closes
      cases rest <;> simp [scanString]
  | case5 next others isNoQuote ih =>
      obtain ⟨inner, innerCloses, rfl⟩ := Option.map_eq_some_iff.mp closes
      rw [StringBody.escape, List.cons_append, List.cons_append, scanString, if_neg isNoQuote,
        if_pos rfl, ih innerCloses]
      rfl
  | case6 character next others isNoQuote isNoEscape ih =>
      obtain ⟨inner, innerCloses, rfl⟩ := Option.map_eq_some_iff.mp closes
      have hasMore : inner.lexeme ++ rest ≠ [] := by
        intro isNothing
        have again := ih innerCloses
        rw [isNothing] at again
        cases again
      rw [StringBody.plain, List.cons_append, scanString_plain hasMore isNoQuote isNoEscape,
        ih innerCloses]
      rfl

/-- A numeral writes no more than one number. -/
theorem Numeral.Writes.unique {numeral : Numeral} {value other : Number}
    (writes : numeral.Writes value)
    (writesToo : numeral.Writes other) :
    value = other := by
  rcases writes with ⟨hasNoFraction, whole, rfl, isValue⟩ | ⟨hasFraction, rfl⟩
  · rcases writesToo with ⟨_, otherWhole, rfl, isOther⟩ | ⟨hasFraction, _⟩
    · rw [Int64.toInt_inj.mp (isValue.trans isOther.symm)]
    · exact absurd hasNoFraction hasFraction
  · rcases writesToo with ⟨hasNoFraction, _⟩ | ⟨_, rfl⟩
    · exact absurd hasNoFraction hasFraction
    · rfl

section InFrontOfBlank

variable {first : Char} {others rest : List Char} {scanned : Scanned}

theorem scansAs_number (isDigit : first.isDigit = true)
    (found : scan first others = .ok scanned)
    (startsBlank : StartsBlank rest) :
    ScansAs scanned.content scanned.lexeme rest := by
  obtain ⟨numeral, value, isLexeme, writes, isNumber⟩ := Numeral.exists_of_scan isDigit found
  obtain ⟨digit, more, startsWithDigit, starts⟩ := numeral.exists_lexeme_append []
  rw [List.append_nil] at starts
  rw [isLexeme, isNumber]
  refine scansAs_of_scanNumber (by simp [starts]) (fun character isHead => ?_) ?_
  · rw [starts] at isHead
    cases isHead
    exact startsWithDigit
  · rcases Numeral.scanNumber_lexeme (startsBlank.endsAt numeral) with
      ⟨again, writesAgain, isRead⟩ | ⟨isTooLarge, _⟩
    · rw [isRead, writes.unique writesAgain]
    · exact absurd isTooLarge (Numeral.not_isOutOfRange_of_writes writes)

/-- What starts a word starts neither a string, a quoted name nor a number. -/
theorem scan_of_startsWord (starts : startsWord first = true) (others : List Char) :
    scan first others = .ok (scanWord (first :: others)) := by
  have isNoQuote : isStringQuote first = false := by
    simp only [isStringQuote, Bool.or_eq_false_iff, beq_eq_false_iff_ne]
    constructor <;> rintro rfl <;> revert starts <;> decide +kernel
  have isNoBacktick : first ≠ '\x60' := by
    rintro rfl
    revert starts
    decide +kernel
  have isNoDigit : first.isDigit = false := by
    refine Bool.eq_false_iff.mpr fun isDigit => ?_
    have bounds := toNat_of_isDigit isDigit
    have isAscii : first.toNat < 0x80 := by omega
    simp only [startsWord, isLetter, isAscii, if_true, Bool.or_eq_true, beq_iff_eq] at starts
    rcases starts with isAlpha | rfl
    · have := toNat_of_isAlpha isAlpha
      omega
    · cases isDigit
  unfold scan
  simp [isNoQuote, isNoBacktick, isNoDigit, starts]

theorem scansAs_scanWord (starts : startsWord first = true)
    (startsBlank : StartsBlank rest) :
    ScansAs (scanWord (first :: others)).content (scanWord (first :: others)).lexeme rest := by
  have continues := continuesWord_of_startsWord starts
  have areInside :
      ∀ character ∈ (first :: others).takeWhile continuesWord, continuesWord character = true :=
    fun _ isIn => List.all_eq_true.mp List.all_takeWhile _ isIn
  obtain ⟨taken, dropped⟩ :=
    takeWhile_append_of_stopsAt areInside startsBlank.stopsAt_continuesWord
  have isVisible : isBlank first = false := by
    refine Bool.eq_false_iff.mpr fun blank => ?_
    rw [continuesWord_of_isBlank blank] at continues
    cases continues
  have isNoMark : startsWord '-' = false ∧ startsWord '/' = false := by decide +kernel
  refine ⟨first, others.takeWhile continuesWord ++ rest, ?_, ?_, ?_⟩
  · simp [scanWord, continues]
  · refine triviaItem?_eq_none isVisible ?_ ?_
    · rintro rfl
      rw [isNoMark.1] at starts
      cases starts
    · rintro rfl
      rw [isNoMark.2] at starts
      cases starts
  · rw [scan_of_startsWord starts]
    rw [List.takeWhile_cons_of_pos continues] at taken dropped
    rw [List.cons_append] at taken dropped
    simp only [scanWord, taken, dropped, List.takeWhile_cons_of_pos continues]

theorem scansAs_wideSymbol {second : Char} {comparison : Comparison}
    (isWide : wideComparison? first second = some comparison)
    (rest : List Char) :
    ScansAs (.comparison comparison) [first, second] rest := by
  unfold wideComparison? at isWide
  split at isWide <;> cases isWide
  all_goals exact ⟨_, _, rfl, by simp [triviaItem?, isBlank_eq_false], rfl⟩

/-- A token in front of a blank is read as before, with all its characters and no more. -/
theorem scansAs_of_scan (found : scan first others = .ok scanned)
    (startsBlank : StartsBlank rest) :
    ScansAs scanned.content scanned.lexeme rest := by
  have scans := scansTo_scan first others
  rw [found] at scans
  cases scans with
  | @string body isQuote closes =>
      refine ⟨first, body.lexeme ++ rest, rfl, ?_, ?_⟩
      · simp only [isStringQuote, Bool.or_eq_true, beq_iff_eq] at isQuote
        rcases isQuote with rfl | rfl <;> simp [triviaItem?, isBlank_eq_false]
      · rw [scan, readString_start, if_pos isQuote, scanString_lexeme closes rest]
  | @quotedName name after isQuote isNonempty isPlain isRest =>
      have isName : IsName (String.ofList name) := by
        refine ⟨?_, ?_⟩
        · simpa using isNonempty
        · rw [String.toList_ofList]
          exact isPlain
      simpa using scansAs_quotedName isName rest
  | decimal isDigit => exact scansAs_number isDigit found startsBlank
  | whole isDigit => exact scansAs_number isDigit found startsBlank
  | word starts => exact scansAs_scanWord starts startsBlank
  | wideSymbol isRest isWide => exact scansAs_wideSymbol isWide rest
  | narrowSymbol isSymbol =>
      exact scansAs_narrow isSymbol (startsBlank.wideComparison?_eq_none first)
        (fun _ => startsBlank.head?_ne (by decide))
        (fun _ => ⟨startsBlank.head?_ne (by decide), startsBlank.head?_ne (by decide)⟩)

end InFrontOfBlank

/-! ## Separators -/

/-- Blanks and whole comments are skipped, up to what stands behind them. -/
theorem skipTrivia_of_isTrivia {gap rest : List Char} (isTrivia : IsTrivia gap rest) :
    skipTrivia (gap ++ rest) = (gap ++ (skipTrivia rest).1, (skipTrivia rest).2) := by
  induction isTrivia with
  | nothing rest => rfl
  | @blank character others rest blank _ ih =>
      have isBlank := triviaItem?_of_isBlank blank (others ++ rest)
      rw [List.cons_append, Lexer.skipTrivia_of_some isBlank, ih]
      rfl
  | @lineComment mark body others rest isMark isOneLine endsLine _ ih =>
      have isComment := triviaItem?_lineComment isMark isOneLine endsLine
      rw [List.append_assoc, List.cons_append, List.cons_append,
        Lexer.skipTrivia_of_some isComment, ih]
      simp
  | @blockComment body others rest isFirst _ ih =>
      have isComment := triviaItem?_blockComment isFirst (others ++ rest)
      have isAll :
          '/' :: '*' :: body ++ ['*', '/'] ++ others ++ rest =
            '/' :: '*' :: (body ++ '*' :: '/' :: (others ++ rest)) := by
        simp
      rw [isAll, Lexer.skipTrivia_of_some isComment, ih]
      simp

/-- Blanks and whole comments, each comment of a line with the end of its line. -/
inductive IsFiller : List Char → Prop where
  | nothing : IsFiller []
  | blank {character : Char} {others : List Char}
      (blank : isBlank character = true)
      (isFiller : IsFiller others) :
      IsFiller (character :: others)
  | lineComment {mark : Char} {body others : List Char}
      (isMark : mark = '-' ∨ mark = '/')
      (isOneLine : '\n' ∉ body)
      (isFiller : IsFiller others) :
      IsFiller (mark :: mark :: (body ++ '\n' :: others))
  | blockComment {body others : List Char}
      (isFirst : ¬ ['*', '/'] <:+: body)
      (isFiller : IsFiller others) :
      IsFiller ('/' :: '*' :: (body ++ '*' :: '/' :: others))

/-- A blank, with any more blanks and whole comments behind it. -/
inductive IsSeparator : List Char → Prop where
  | intro {character : Char} {filler : List Char}
      (blank : isBlank character = true)
      (isFiller : IsFiller filler) :
      IsSeparator (character :: filler)

/-- Filler is passed over whatever stands behind it. -/
theorem IsFiller.isTrivia {gap : List Char} (isFiller : IsFiller gap) (rest : List Char) :
    IsTrivia gap rest := by
  induction isFiller with
  | nothing => exact .nothing rest
  | blank blank _ ih => exact .blank blank ih
  | @lineComment mark body others isMark isOneLine _ ih =>
      have isLineFeed : isBlank '\n' = true := by decide
      have endsLine : ∀ next ∈ ('\n' :: others ++ rest).head?, next = '\n' := by simp
      exact .lineComment isMark isOneLine endsLine (.blank isLineFeed ih)
  | @blockComment body others isFirst _ ih =>
      have isTrivia := IsTrivia.blockComment isFirst ih
      simpa using isTrivia

theorem IsSeparator.isFiller {gap : List Char} (isSeparator : IsSeparator gap) :
    IsFiller gap := by
  cases isSeparator with
  | intro blank isFiller => exact .blank blank isFiller

theorem IsSeparator.startsBlank {gap : List Char} (isSeparator : IsSeparator gap)
    (rest : List Char) :
    StartsBlank (gap ++ rest) := by
  cases isSeparator with
  | intro blank isFiller =>
      intro character isHead
      cases isHead
      exact blank

/-- Characters that are the texts of tokens, in their order, with separators between them. -/
inductive IsSpaced : List Token → List Char → Prop where
  | nothing : IsSpaced [] []
  | last (token : Token) :
      IsSpaced [token] token.text.toList
  | token (token : Token) {next : Token} {others : List Token} {gap rest : List Char}
      (isSeparator : IsSeparator gap)
      (isSpaced : IsSpaced (next :: others) rest) :
      IsSpaced (token :: next :: others) (token.text.toList ++ (gap ++ rest))

/-! ## Reading spaced tokens -/

namespace Lexer

/-- A lexer in front of blanks and whole comments gives what it gives behind them. -/
theorem items_of_isTrivia {lexer : Lexer} {gap rest : List Char}
    (isTrivia : IsTrivia gap rest)
    (isUnlimited : lexer.limit = none)
    (isUnfinished : lexer.phase ≠ .finished)
    (isAt : lexer.rest = gap ++ rest) :
    lexer.items =
      { lexer with rest := rest, position := lexer.position.after gap }.items := by
  have sameStep : lexer.nextToken =
      { lexer with rest := rest, position := lexer.position.after gap }.nextToken := by
    unfold nextToken
    simp only [isAt, skipTrivia_of_isTrivia isTrivia, Position.after_append]
  exact
    items_eq_of_nextToken_eq isUnlimited isUnfinished isUnlimited isUnfinished sameStep

/-- A lexer in front of a token and a blank gives that token, and goes on behind it. -/
theorem exists_items_token {lexer : Lexer} {token : Token} {rest : List Char}
    (isUnlimited : lexer.limit = none)
    (isUnfinished : lexer.phase ≠ .finished)
    (isScanned : token.IsScanned)
    (isAt : lexer.rest = token.text.toList ++ rest)
    (startsBlank : StartsBlank rest) :
    ∃ behind : Lexer,
      behind.limit = none ∧ behind.phase ≠ .finished ∧ behind.rest = rest ∧
        lexer.items = .ok { token with position := lexer.position } :: behind.items := by
  obtain ⟨content, text, position⟩ := token
  obtain ⟨first, others, scanned, found, rfl, rfl⟩ := isScanned
  rw [String.toList_ofList] at isAt
  have step := nextToken_of_scansAs (scansAs_of_scan found startsBlank) isAt
  refine ⟨lexer.nextToken.2, ?_, ?_, ?_, ?_⟩
  · rw [step]
    exact isUnlimited
  · rw [step]
    exact LexerPhase.noConfusion
  · rw [step]
  · rw [items_eq_cons isUnlimited isUnfinished, step]

/-- A lexer in front of spaced tokens gives tokens like them, and then the end. -/
theorem exists_items_spaced {tokens : List Token} {characters : List Char}
    (isSpaced : IsSpaced tokens characters)
    (areScanned : ∀ token ∈ tokens, token.IsScanned)
    {lexer : Lexer}
    (isUnlimited : lexer.limit = none)
    (isUnfinished : lexer.phase ≠ .finished)
    (isAt : lexer.rest = characters) :
    ∃ (others : List Token) (position : Position),
      lexer.items = others.map .ok ++ [.ok (.endAt position)] ∧
        others.map (fun token => (token.content, token.text)) =
          tokens.map fun token => (token.content, token.text) := by
  induction isSpaced generalizing lexer with
  | nothing => exact ⟨[], lexer.position, items_of_nil isUnlimited isUnfinished isAt, rfl⟩
  | last token =>
      have isScanned := areScanned token List.mem_cons_self
      rw [← List.append_nil token.text.toList] at isAt
      obtain ⟨behind, isUnlimited, isUnfinished, isBehind, items⟩ :=
        exists_items_token isUnlimited isUnfinished isScanned isAt nofun
      refine ⟨[{ token with position := lexer.position }], behind.position, ?_, rfl⟩
      rw [items, items_of_nil isUnlimited isUnfinished isBehind]
      rfl
  | @token token next later gap rest isSeparator _ ih =>
      obtain ⟨isScanned, areScanned⟩ := List.forall_mem_cons.mp areScanned
      obtain ⟨behind, isUnlimited, isUnfinished, isBehind, items⟩ :=
        exists_items_token isUnlimited isUnfinished isScanned isAt (isSeparator.startsBlank _)
      have isGap := isSeparator.isFiller.isTrivia rest
      have sameItems := items_of_isTrivia isGap isUnlimited isUnfinished isBehind
      obtain ⟨others, position, otherItems, areSame⟩ :=
        @ih areScanned { behind with rest := rest, position := behind.position.after gap }
          isUnlimited isUnfinished rfl
      refine ⟨{ token with position := lexer.position } :: others, position, ?_, ?_⟩
      · rw [items, sameItems, otherItems]
        rfl
      · rw [List.map_cons, List.map_cons, areSame]

/-- The tokens of a text without errors were all read off it. -/
theorem isScanned_of_items {source : String} {limit : Option Nat} {tokens : List Token}
    {ending : Token}
    (items : (new source limit).items = tokens.map .ok ++ [.ok ending]) :
    ∀ token ∈ tokens, token.IsScanned := by
  have areAll : (new source limit).items = (tokens ++ [ending]).map .ok := by
    rw [items, List.map_append, List.map_singleton]
  obtain ⟨_, _, isStream⟩ := TokenStream.ofSource_of_items areAll
  intro token isIn
  rw [List.append_inj_left' isStream rfl] at isIn
  exact TokenStream.isScanned_of_mem isIn

/--
The tokens of a text that has no error are read again from every text that has them in
the same order with separators between them: as many, that say the same and have the
same characters.
-/
theorem items_of_isSpaced {source text : String} {limit : Option Nat} {tokens : List Token}
    {ending : Token}
    (items : (new source limit).items = tokens.map .ok ++ [.ok ending])
    (isSpaced : IsSpaced tokens text.toList) :
    ∃ (others : List Token) (position : Position),
      (new text none).items = others.map .ok ++ [.ok (.endAt position)] ∧
        others.map (fun token => (token.content, token.text)) =
          tokens.map fun token => (token.content, token.text) :=
  exists_items_spaced isSpaced (isScanned_of_items items) rfl LexerPhase.noConfusion rfl

/-- The tokens of a text in which a slash stands between a string and a number. -/
def quotientTokens : List Token := [
  ⟨.name "x" false, "x", ⟨1, 1⟩⟩,
  ⟨.comparison .lessOrEqual, "<=", ⟨1, 2⟩⟩,
  ⟨.string "a/*", "'a/*'", ⟨1, 4⟩⟩,
  ⟨.arithmetic .divide, "/", ⟨1, 9⟩⟩,
  ⟨.number (.float (.ofRank false 0)), "0.0", ⟨1, 10⟩⟩]

/-- Comments of all kinds around a slash, and one with a quote in front of a string. -/
theorem items_of_isSpaced_quotient :
    (new "x<='a/*'/0.0" none).items =
        quotientTokens.map .ok ++ [.ok (.endAt ⟨1, 13⟩)] ∧
      IsSpaced quotientTokens "x <= --'\n'a/*'\n/**//\t//*\n0.0".toList ∧
      ∃ (others : List Token) (position : Position),
        (new "x <= --'\n'a/*'\n/**//\t//*\n0.0" none).items =
            others.map .ok ++ [.ok (.endAt position)] ∧
          others.map (fun token => (token.content, token.text)) =
            quotientTokens.map fun token => (token.content, token.text) := by
  have items :
      (new "x<='a/*'/0.0" none).items =
        quotientTokens.map .ok ++ [.ok (.endAt ⟨1, 13⟩)] := by
    cbv
  have blank : IsSeparator [' '] := .intro rfl .nothing
  have dashes : IsSeparator " --'\n".toList :=
    .intro rfl (@IsFiller.lineComment '-' ['\''] [] (.inl rfl) (by decide) .nothing)
  have block : IsSeparator "\n/**/".toList :=
    .intro rfl (@IsFiller.blockComment [] [] (by decide) .nothing)
  have slashes : IsSeparator "\t//*\n".toList :=
    .intro rfl (@IsFiller.lineComment '/' ['*'] [] (.inr rfl) (by decide) .nothing)
  have isSpaced : IsSpaced quotientTokens "x <= --'\n'a/*'\n/**//\t//*\n0.0".toList :=
    .token _ blank (.token _ dashes (.token _ block (.token _ slashes (.last _))))
  exact ⟨items, isSpaced, items_of_isSpaced items isSpaced⟩

end Lexer

end EventQuery
