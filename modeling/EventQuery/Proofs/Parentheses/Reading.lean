import EventQuery.Proofs.Canonical.Derivation
import EventQuery.Proofs.Parentheses.Canonical
import EventQuery.Proofs.Parentheses.Phrase
import EventQuery.Proofs.Token.Layout
import EventQuery.Proofs.Token.Numeral

/-!
# What is read off pieces and characters

Two scales are needed.  One counts opening parentheses and doubled signs, and finds as
many in the tokens of a text as in its pieces.  The other one counts the ends of lines
in names.  Tokens have no more of these than their characters, and canonical text has
none but in its names: strings have theirs escaped, and nothing else has any.
-/

namespace EventQuery

open Piece

/-! ## Parentheses -/

namespace Scale

/-- The scale that counts opening parentheses, and doubled signs like them. -/
def parentheses : Scale where
  opening := 1
  name := fun _ => 0

end Scale

/-- A piece and the token that it is read as weigh the same where names weigh nothing. -/
theorem Piece.ReadsAs.exists_mark {piece : Piece} {token : Token}
    (reads : piece.ReadsAs token.content) :
    ∃ mark, piece.mark? = some mark ∧ ∀ mood : Mood,
      mood.after token.mark = mood.after mark ∧
        Scale.parentheses.weight mood token.mark = Scale.parentheses.weight mood mark := by
  obtain ⟨content, text, position⟩ := token
  have isOperand (name : String) (mood : Mood) :
      mood.after (.name name) = mood.after .operand ∧
        Scale.parentheses.weight mood (.name name) =
          Scale.parentheses.weight mood .operand := by
    cases mood <;> exact ⟨rfl, rfl⟩
  have reads : piece.ReadsAs content := reads
  cases reads with
  | @keyword word =>
      refine ⟨_, rfl, fun mood => ?_⟩
      simp only [Token.mark, Token.name?]
      cases word.isReserved with
      | true => exact ⟨rfl, rfl⟩
      | false => exact isOperand _ mood
  | timeUnit => exact ⟨_, rfl, isOperand _⟩
  | plainName => exact ⟨_, rfl, fun _ => ⟨rfl, rfl⟩⟩
  | @keywordName name word isPlain isKeyword =>
      refine ⟨_, rfl, fun mood => ?_⟩
      simp only [Token.mark, Token.name?, not_reserved_of_isPlainName isPlain isKeyword]
      cases mood <;> exact ⟨rfl, rfl⟩
  | quotedName => exact ⟨_, rfl, fun _ => ⟨rfl, rfl⟩⟩
  | string => exact ⟨_, rfl, fun _ => ⟨rfl, rfl⟩⟩
  | boolean => exact ⟨_, rfl, isOperand _⟩
  | whole => exact ⟨_, rfl, fun _ => ⟨rfl, rfl⟩⟩
  | decimal => exact ⟨_, rfl, fun _ => ⟨rfl, rfl⟩⟩
  | infinity => exact ⟨_, rfl, isOperand _⟩
  | comparison => exact ⟨_, rfl, fun _ => ⟨rfl, rfl⟩⟩
  | @arithmetic operator => cases operator <;> exact ⟨_, rfl, fun _ => ⟨rfl, rfl⟩⟩
  | comma => exact ⟨_, rfl, fun _ => ⟨rfl, rfl⟩⟩
  | leftParenthesis => exact ⟨_, rfl, fun _ => ⟨rfl, rfl⟩⟩
  | rightParenthesis => exact ⟨_, rfl, fun _ => ⟨rfl, rfl⟩⟩

/-- Pieces have as many parentheses as the tokens that they are read as. -/
theorem Scale.total_of_areReadAs {pieces : List Piece} {tokens : List Token}
    (areRead : AreReadAs pieces tokens)
    (mood : Mood) :
    parentheses.total mood (tokens.map Token.mark) = parentheses.total mood (marks pieces) := by
  induction areRead generalizing mood with
  | nil => rfl
  | space _ ih => exact ih mood
  | token reads _ _ ih =>
      obtain ⟨mark, isMark, weighsSame⟩ := reads.exists_mark
      obtain ⟨sameAfter, sameWeight⟩ := weighsSame mood
      rw [marks_cons_of_mark? isMark, List.map_cons, total, total, sameAfter, sameWeight, ih]

/-! ## Ends of lines in names -/

/-- How many lines end in some characters. -/
def countLines (characters : List Char) : Nat :=
  characters.count '\n'

theorem countLines_append (first second : List Char) :
    countLines (first ++ second) = countLines first + countLines second :=
  List.count_append

namespace Scale

/-- The scale that counts the ends of lines in names. -/
def lines : Scale where
  opening := 0
  name := fun name => countLines name.toList

end Scale

/-- Without parentheses and signs it makes no difference what stands in front. -/
theorem Scale.total_lines (mood : Mood) (marks : List Mark) :
    lines.total mood marks = lines.total .awaiting marks := by
  induction marks generalizing mood with
  | nil => rfl
  | cons mark marks ih =>
      have sameWeight : lines.weight mood mark = lines.weight .awaiting mark := by
        cases mood <;> cases mark <;> rfl
      rw [total, total, sameWeight, ih, ih (Mood.awaiting.after mark)]

theorem Scale.total_lines_append (first second : List Mark) :
    lines.total .awaiting (first ++ second) =
      lines.total .awaiting first + lines.total .awaiting second := by
  rw [total_append, total_lines (Mood.through _ _)]

theorem countLines_eq_zero {characters : List Char} (condition : Char → Bool)
    (isNoEnd : condition '\n' = false)
    (areThat : ∀ character ∈ characters, condition character = true) :
    countLines characters = 0 :=
  List.count_eq_zero.mpr fun isIn => absurd (areThat '\n' isIn) (by simp [isNoEnd])

theorem countLines_word {word : List Char} (isWord : isPlainWord word = true) :
    countLines word = 0 := by
  refine
    countLines_eq_zero (fun character => startsPlainWord character || continuesPlainWord character)
      (by decide) fun character isIn => ?_
  cases word with
  | nil => cases isIn
  | cons first others =>
      obtain ⟨starts, continues⟩ := Bool.and_eq_true_iff.mp isWord
      rcases List.mem_cons.mp isIn with rfl | isLater
      · exact Bool.or_eq_true_iff.mpr (Or.inl starts)
      · exact Bool.or_eq_true_iff.mpr (Or.inr (List.all_eq_true.mp continues _ isLater))

theorem countLines_nameText (name : String) :
    countLines (nameText name).toList = countLines name.toList := by
  unfold nameText
  split
  · rfl
  · simp [countLines]

theorem countLines_stringText (value : String) : countLines (stringText value).toList = 0 := by
  have isEscaped (character : Char) :
      (escapedCharacter character).all (· != '\n') = true := by
    unfold escapedCharacter
    split <;> simp_all
  refine countLines_eq_zero (· != '\n') (by decide) ?_
  rw [stringText, String.toList_ofList, ← List.all_eq_true]
  simp [isEscaped]

theorem countLines_decimal (rank : Nat) : countLines (decimal rank).text.toList = 0 := by
  rcases Nat.lt_or_ge rank Decimal.infinityRank with isFinite | isInfinite
  · obtain ⟨whole, fraction, equal, pointed⟩ := Decimal.exists_pointedText_literal isFinite
    have inWhole := countLines_eq_zero Char.isDigit (by decide) pointed.isWhole
    have inFraction := countLines_eq_zero Char.isDigit (by decide) pointed.isFraction
    rw [text, equal, countLines_append, inWhole, Nat.zero_add, ← inFraction]
    exact List.count_cons_of_ne (by decide)
  · rw [text, literalText_of_infinite isInfinite]
    decide

/-- A piece has no end of a line but in its name. -/
theorem Piece.countLines_text (piece : Piece) :
    countLines piece.text.toList = Scale.lines.total .awaiting (marks [piece]) := by
  cases piece with
  | keyword word =>
      rw [text, countLines_word (isPlainWord_keyword word)]
      cases isReserved : word.isReserved <;> simp [marks, mark?, isReserved]
  | timeUnit amount unit => exact countLines_word (isPlainWord_timeUnit amount unit)
  | name value => exact countLines_nameText value
  | string value => exact countLines_stringText value
  | whole value =>
      refine countLines_eq_zero Char.isDigit (by decide) fun character isIn => ?_
      rw [text, Decimal.naturalText, String.toList_ofList] at isIn
      exact Decimal.isDigit_of_mem_digits isIn
  | decimal rank => exact countLines_decimal rank
  | boolean value => cases value <;> decide
  | comparison operator => cases operator <;> decide
  | arithmetic operator => cases operator <;> decide
  | _ => decide

/-- Canonical text has no end of a line but in its names. -/
theorem Piece.countLines_textOf (pieces : List Piece) :
    countLines (textOf pieces).toList = Scale.lines.total .awaiting (marks pieces) := by
  induction pieces with
  | nil => rfl
  | cons piece pieces ih =>
      rw [toList_textOf_cons, countLines_append, ← List.singleton_append, marks_append,
        Scale.total_lines_append, piece.countLines_text, ih]

/-! ## Ends of lines in tokens -/

/-- The name of a token has no more ends of lines than its characters. -/
theorem Token.IsScanned.countLines_name?_le {token : Token} {name : String}
    (isScanned : token.IsScanned)
    (means : token.name? = some name) :
    countLines name.toList ≤ countLines token.text.toList := by
  obtain ⟨first, rest, scanned, found, content, text⟩ := isScanned
  rcases name?_eq_some_iff.mp means with ⟨isQuoted, isName⟩ | ⟨word, _, _, rfl⟩
  · have scans := scansTo_scan first rest
    rw [found] at scans
    rw [content] at isName
    rw [text, String.toList_ofList]
    cases scans with
    | quotedName =>
        cases isName
        rw [String.toList_ofList]
        simp [countLines]
    | word =>
        rcases content_scanWord (first :: rest) with ⟨word, isWord⟩ | isWritten
        · cases isWord.symm.trans isName
        · cases isWritten.symm.trans isName
          rw [String.toList_ofList]
    | narrowSymbol isSymbol =>
        cases isName
        cases isSymbol_of_narrowSymbol? isSymbol
    | _ => cases isName
  · exact Nat.le_refl _

/-- The tokens of pieces have all ends of lines of the text of the pieces. -/
theorem Piece.AreReadAs.sum_countLines {pieces : List Piece} {tokens : List Token}
    (areRead : AreReadAs pieces tokens) :
    (tokens.map fun token => countLines token.text.toList).sum =
      countLines (textOf pieces).toList := by
  induction areRead with
  | nil => rfl
  | space _ ih =>
      rw [ih, toList_textOf_cons, countLines_append]
      exact (Nat.zero_add _).symm
  | token _ isSpelled _ ih =>
      rw [List.map_cons, List.sum_cons, ih, isSpelled, toList_textOf_cons, countLines_append]

/-- The names of tokens have no more ends of lines than the characters of the tokens. -/
theorem Scale.total_lines_le {tokens : List Token}
    (areScanned : ∀ token ∈ tokens, token.IsScanned) :
    lines.total .awaiting (tokens.map Token.mark) ≤
      (tokens.map fun token => countLines token.text.toList).sum := by
  induction tokens with
  | nil => exact Nat.le_refl _
  | cons token tokens ih =>
      obtain ⟨isScanned, others⟩ := List.forall_mem_cons.mp areScanned
      have isBound : lines.weight .awaiting token.mark ≤ countLines token.text.toList := by
        unfold Token.mark
        split
        · rename_i means
          exact isScanned.countLines_name?_le means
        all_goals exact Nat.zero_le _
      rw [List.map_cons, List.map_cons, List.sum_cons, total, total_lines (Mood.after _ _)]
      exact Nat.add_le_add isBound (ih others)

/-- Tokens have no more ends of lines than what they are read off. -/
theorem Lexer.countLines_items_le {lexer : Lexer} (isReady : lexer.IsReady) :
    ((TokenStream.ofItems lexer.items).tokens.map fun token =>
        countLines token.text.toList).sum ≤ countLines lexer.rest := by
  have gives := next_of_isReady isReady
  have isCloser := pending_next_lt gives
  have passes := lexer.passesOver_nextToken
  rw [items_of_next gives]
  generalize lexer.nextToken = step at passes isCloser ⊢
  cases passes with
  | ending => exact Nat.zero_le _
  | fault => exact Nat.zero_le _
  | @token gap token after isNoEnd _ isAll _ _ goesOn =>
      have behind := countLines_items_le (.inl goesOn)
      dsimp only
      rw [TokenStream.ofItems, if_neg isNoEnd, TokenStream.cons, List.map_cons, List.sum_cons,
        isAll, countLines_append, countLines_append]
      omega
termination_by lexer.pending

/-! ## Comments -/

/-- Trivia leave nothing behind but a lexer that stands further on. -/
theorem Lexer.exists_items_trivia {lexer : Lexer} {item after : List Char}
    (isUnlimited : lexer.limit = none)
    (isUnfinished : lexer.phase ≠ .finished)
    (isTrivia : triviaItem? lexer.rest = some (item, after)) :
    ∃ behind : Lexer,
      behind.limit = none ∧ behind.phase ≠ .finished ∧ behind.rest = after ∧
        lexer.items = behind.items :=
  ⟨{ lexer with rest := after, position := lexer.position.after item }, isUnlimited,
    isUnfinished, rfl, items_trivia isUnlimited isUnfinished isTrivia⟩

/-- What is read from two dashes on has fewer ends of lines than there are behind them. -/
theorem Lexer.tokens_of_comment {lexer : Lexer} {rest : List Char}
    (isUnlimited : lexer.limit = none)
    (isUnfinished : lexer.phase ≠ .finished)
    (isAtDashes : lexer.rest = '-' :: '-' :: rest) :
    (TokenStream.ofItems lexer.items).tokens = [] ∨
      ((TokenStream.ofItems lexer.items).tokens.map fun token =>
          countLines token.text.toList).sum <
        countLines rest := by
  have isComment :
      triviaItem? lexer.rest = some ('-' :: '-' :: lineBody rest, afterLine rest) := by
    rw [isAtDashes]
    rfl
  obtain ⟨behind, isUnlimited, isUnfinished, isBehind, sameItems⟩ :=
    exists_items_trivia isUnlimited isUnfinished isComment
  rw [sameItems]
  have isLine : lineBody rest ++ afterLine rest = rest := List.takeWhile_append_dropWhile
  cases isAfter : afterLine rest with
  | nil =>
      rw [isAfter] at isBehind
      obtain ⟨ending, isEnd⟩ := ofItems_items_nil isUnlimited isUnfinished isBehind
      exact Or.inl (congrArg TokenStream.tokens isEnd)
  | cons character more =>
      -- The comment goes up to the end of its line, which is a blank of its own.
      obtain rfl : character = '\n' := by
        have stops := List.head?_dropWhile_not (· != '\n') rest
        rw [show rest.dropWhile (· != '\n') = character :: more from isAfter] at stops
        simpa using stops
      have isBlank : triviaItem? behind.rest = some (['\n'], more) := by
        rw [isBehind, isAfter]
        rfl
      obtain ⟨next, isUnlimited, isUnfinished, isNext, sameItems⟩ :=
        exists_items_trivia isUnlimited isUnfinished isBlank
      have isBound := countLines_items_le (isReady_of_unlimited isUnlimited isUnfinished)
      have more_lt : countLines more < countLines rest := by
        rw [← isLine, isAfter, countLines_append]
        simp only [countLines, List.count_cons_self]
        omega
      rw [isNext] at isBound
      rw [sameItems]
      exact Or.inr (Nat.lt_of_le_of_lt isBound more_lt)

/--
Behind pieces and two dashes the rest of the line is lost.  What is read behind it has
fewer ends of lines than there are behind the dashes.
-/
theorem TokenStream.exists_ofSource_comment
    {source : String} {before : List Piece} {rest : List Char}
    (isText : source.toList = (textOf before).toList ++ '-' :: '-' :: rest)
    (legible : AreLegible before)
    (endsApart : ∀ last ∈ before.getLast?, last.isSeparator = true) :
    ∃ tokens others : List Token,
      (ofSource source none).tokens = tokens ++ others ∧ AreReadAs before tokens ∧
        (others = [] ∨
          (others.map fun token => countLines token.text.toList).sum < countLines rest) := by
  obtain ⟨tokens, dashes, isUnlimited, isUnfinished, isAtDashes, areRead, equal⟩ :=
    @Lexer.ofItems_items_of_pieces before (Lexer.new source none) ('-' :: '-' :: rest) rfl
      (by simp [Lexer.new]) isText legible.areReadable legible.isChain (Or.inr endsApart)
  exact
    ⟨tokens, (ofItems dashes.items).tokens, congrArg TokenStream.tokens equal, areRead,
      Lexer.tokens_of_comment isUnlimited isUnfinished isAtDashes⟩

end EventQuery
