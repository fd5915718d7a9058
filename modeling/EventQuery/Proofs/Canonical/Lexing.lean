import Mathlib.Data.List.Chain
import EventQuery.Proofs.Canonical.Scanning
import EventQuery.Proofs.Token.Items

/-!
# Canonical text is cut into its pieces

Pieces that keep apart from their neighbours are read as one token each, with
nothing lost and nothing run together, and behind the last one stands the end.
-/

namespace EventQuery

namespace Piece

/-- Whether two pieces may stand side by side without running together. -/
def MayTouch (first second : Piece) : Prop :=
  first.isSeparator = true ∨ second.isSeparator = true ∨
    first = .arithmetic .subtract ∧ second ≠ .arithmetic .subtract

/-- The tokens that a row of pieces is read as: one for each piece but the spaces. -/
inductive AreReadAs : List Piece → List Token → Prop where
  | nil : AreReadAs [] []
  | space {pieces : List Piece} {tokens : List Token}
      (rest : AreReadAs pieces tokens) :
      AreReadAs (.space :: pieces) tokens
  | token {piece : Piece} {pieces : List Piece} {token : Token} {tokens : List Token}
      (reads : piece.ReadsAs token.content)
      (isSpelled : token.text = piece.text)
      (rest : AreReadAs pieces tokens) :
      AreReadAs (piece :: pieces) (token :: tokens)

/--
The tokens that a row of pieces is read as, at their places: the first piece starts at the
given place, and every other one right behind the piece in front of it.
-/
inductive AreReadFrom : Position → List Piece → List Token → Prop where
  | nil {position : Position} : AreReadFrom position [] []
  | space {position : Position} {pieces : List Piece} {tokens : List Token}
      (rest : AreReadFrom (position.after [' ']) pieces tokens) :
      AreReadFrom position (.space :: pieces) tokens
  | token {position : Position} {piece : Piece} {pieces : List Piece}
      {content : TokenContent} {tokens : List Token}
      (reads : piece.ReadsAs content)
      (rest : AreReadFrom (position.after piece.text.toList) pieces tokens) :
      AreReadFrom position (piece :: pieces) (⟨content, piece.text, position⟩ :: tokens)

/-- Whether a piece is a space or can be read. -/
def IsReadable (piece : Piece) : Prop :=
  piece = .space ∨ ∃ content, piece.ReadsAs content

theorem areReadAs_append_iff {first second : List Piece} {tokens : List Token} :
    AreReadAs (first ++ second) tokens ↔
      ∃ left right,
        tokens = left ++ right ∧ AreReadAs first left ∧ AreReadAs second right := by
  constructor
  · intro areRead
    induction first generalizing tokens with
    | nil => exact ⟨[], tokens, rfl, .nil, areRead⟩
    | cons piece first ih =>
        cases areRead with
        | space rest =>
            obtain ⟨left, right, rfl, leftRead, rightRead⟩ := ih rest
            exact ⟨left, right, rfl, .space leftRead, rightRead⟩
        | token reads isSpelled rest =>
            obtain ⟨left, right, rfl, leftRead, rightRead⟩ := ih rest
            exact ⟨_ :: left, right, rfl, .token reads isSpelled leftRead, rightRead⟩
  · rintro ⟨left, right, rfl, leftRead, rightRead⟩
    induction leftRead with
    | nil => exact rightRead
    | space _ ih => exact .space ih
    | token reads isSpelled _ ih => exact .token reads isSpelled ih

theorem areReadAs_space_iff {pieces : List Piece} {tokens : List Token} :
    AreReadAs (.space :: pieces) tokens ↔ AreReadAs pieces tokens := by
  constructor
  · rintro (_ | rest | ⟨reads, _, _⟩)
    · exact rest
    · cases reads
  · exact .space

/-- A piece other than a space is read as one token. -/
theorem areReadAs_cons_iff {piece : Piece} {pieces : List Piece} {tokens : List Token}
    (isNoSpace : piece ≠ .space) :
    AreReadAs (piece :: pieces) tokens ↔
      ∃ token others,
        tokens = token :: others ∧ piece.ReadsAs token.content ∧
          token.text = piece.text ∧ AreReadAs pieces others := by
  constructor
  · rintro (_ | rest | ⟨reads, isSpelled, rest⟩)
    · exact absurd rfl isNoSpace
    · exact ⟨_, _, rfl, reads, isSpelled, rest⟩
  · rintro ⟨token, others, rfl, reads, isSpelled, rest⟩
    exact .token reads isSpelled rest

theorem areReadAs_nil_iff {tokens : List Token} : AreReadAs [] tokens ↔ tokens = [] := by
  constructor
  · rintro ⟨⟩
    rfl
  · rintro rfl
    exact .nil

theorem areReadAs_single_iff {piece : Piece} {tokens : List Token}
    (isNoSpace : piece ≠ .space) :
    AreReadAs [piece] tokens ↔
      ∃ token,
        tokens = [token] ∧ piece.ReadsAs token.content ∧ token.text = piece.text := by
  rw [areReadAs_cons_iff isNoSpace]
  simp only [areReadAs_nil_iff]
  constructor
  · rintro ⟨token, _, rfl, reads, isSpelled, rfl⟩
    exact ⟨token, rfl, reads, isSpelled⟩
  · rintro ⟨token, rfl, reads, isSpelled⟩
    exact ⟨token, [], rfl, reads, isSpelled, rfl⟩

theorem AreReadFrom.areReadAs {position : Position} {pieces : List Piece}
    {tokens : List Token} (areRead : AreReadFrom position pieces tokens) :
    AreReadAs pieces tokens := by
  induction areRead with
  | nil => exact .nil
  | space _ ih => exact .space ih
  | token reads _ ih => exact .token reads rfl ih

/-- No piece is read as the end of the query. -/
theorem AreReadFrom.areUnended {position : Position} {pieces : List Piece}
    {tokens : List Token} (areRead : AreReadFrom position pieces tokens) :
    ∀ token ∈ tokens, token.content ≠ .endOfInput := by
  induction areRead with
  | nil => exact List.forall_mem_nil _
  | space _ ih => exact ih
  | token reads _ ih =>
      refine List.forall_mem_cons.mpr ⟨?_, ih⟩
      rintro rfl
      cases reads

/-- A piece is read in one way only. -/
theorem ReadsAs.unique {piece : Piece} {first second : TokenContent}
    (firstReads : piece.ReadsAs first)
    (secondReads : piece.ReadsAs second) :
    first = second := by
  have isApart : piece.IsApart [] := Or.inr (Or.inl fun _ isHead => by cases isHead)
  obtain ⟨start, others, equal, _, scanned⟩ := firstReads.scansAs isApart
  obtain ⟨start', others', equal', _, scanned'⟩ := secondReads.scansAs isApart
  obtain ⟨rfl, rfl⟩ := List.cons.inj (equal.symm.trans equal')
  rw [scanned] at scanned'
  exact congrArg Scanned.content (Except.ok.inj scanned')

theorem toList_textOf_cons (piece : Piece) (pieces : List Piece) :
    (textOf (piece :: pieces)).toList = piece.text.toList ++ (textOf pieces).toList := by
  simp [textOf]

theorem textOf_append (first second : List Piece) :
    textOf (first ++ second) = textOf first ++ textOf second := by
  unfold textOf
  rw [List.map_append, String.join_append]

/-! ## First characters of pieces -/

theorem isSeparated_of_isSeparator {piece : Piece} {pieces : List Piece}
    (isSeparator : piece.isSeparator = true)
    (rest : List Char) :
    IsSeparated ((textOf (piece :: pieces)).toList ++ rest) := by
  rw [toList_textOf_cons, List.append_assoc]
  intro character isHead
  cases piece <;> cases isSeparator <;> cases isHead <;> decide

/-- Only the minus sign is read off a dash. -/
theorem eq_subtract_of_head? {piece : Piece} {content : TokenContent}
    (reads : piece.ReadsAs content)
    (isDash : piece.text.toList.head? = some '-') :
    piece = .arithmetic .subtract := by
  have isApart : piece.IsApart [] := Or.inr (Or.inl fun _ isHead => by cases isHead)
  obtain ⟨first, others, equal, _, scanned⟩ := reads.scansAs isApart
  rw [List.append_nil] at equal
  rw [equal] at isDash
  cases isDash
  have isSign : content = .arithmetic .subtract := by
    have isSymbol : scan '-' others = .ok ⟨.arithmetic .subtract, ['-'], others⟩ := by
      cases others <;> rfl
    rw [isSymbol] at scanned
    exact congrArg Scanned.content (Except.ok.inj scanned).symm
  subst isSign
  cases reads
  rfl

theorem ne_nil_of_readsAs {piece : Piece} {content : TokenContent}
    (reads : piece.ReadsAs content) :
    piece.text.toList ≠ [] := by
  have isApart : piece.IsApart [] := Or.inr (Or.inl fun _ isHead => by cases isHead)
  obtain ⟨first, others, equal, _⟩ := reads.scansAs isApart
  rw [List.append_nil] at equal
  simp [equal]

/-- Pieces that may touch do not run together, nor does the last one with what follows it. -/
theorem isApart_of_isChain {piece : Piece} {pieces : List Piece} {rest : List Char}
    (areReadable : ∀ other ∈ pieces, other.IsReadable)
    (isChain : (piece :: pieces).IsChain MayTouch)
    (endsApart :
      rest = [] ∨ ∀ last ∈ (piece :: pieces).getLast?, last.isSeparator = true) :
    piece.IsApart ((textOf pieces).toList ++ rest) := by
  cases pieces with
  | nil =>
      rcases endsApart with rfl | isSeparator
      · exact Or.inr (Or.inl fun _ isHead => by cases isHead)
      · exact Or.inl (isSeparator piece rfl)
  | cons second pieces =>
      rcases (List.isChain_cons_cons.mp isChain).1 with
        isSeparator | isSeparator | ⟨isMinus, isNoMinus⟩
      · exact Or.inl isSeparator
      · exact Or.inr (Or.inl (isSeparated_of_isSeparator isSeparator rest))
      · refine Or.inr (Or.inr ⟨isMinus, fun isDash => isNoMinus ?_⟩)
        rw [toList_textOf_cons] at isDash
        rcases areReadable second List.mem_cons_self with rfl | ⟨content, reads⟩
        · cases isDash
        · obtain ⟨first, others, equal⟩ := List.exists_cons_of_ne_nil (ne_nil_of_readsAs reads)
          rw [equal] at isDash
          refine eq_subtract_of_head? reads ?_
          rw [equal]
          exact isDash

end Piece

/-! ## Steps of the lexer -/

/-- Tokens in front of other items are the first tokens of the stream. -/
theorem TokenStream.ofItems_append {tokens : List Token}
    (areUnended : ∀ token ∈ tokens, token.content ≠ .endOfInput)
    (items : List (Except QueryError Token)) :
    ofItems (tokens.map .ok ++ items) =
      ⟨tokens ++ (ofItems items).tokens, (ofItems items).ending⟩ := by
  induction tokens with
  | nil => rfl
  | cons token tokens ih =>
      obtain ⟨isNoEnd, othersUnended⟩ := List.forall_mem_cons.mp areUnended
      rw [List.map_cons, List.cons_append, ofItems, if_neg isNoEnd, ih othersUnended]
      rfl

namespace Lexer

theorem skipTrivia_of_none {characters : List Char}
    (isNone : triviaItem? characters = none) :
    skipTrivia characters = ([], characters) := by
  unfold skipTrivia
  split
  · rfl
  · rename_i isSome
    rw [isNone] at isSome
    cases isSome

theorem skipTrivia_of_some {characters item after : List Char}
    (isSome : triviaItem? characters = some (item, after)) :
    skipTrivia characters = (item ++ (skipTrivia after).1, (skipTrivia after).2) := by
  rw [skipTrivia]
  split
  · rename_i isNone
    rw [isSome] at isNone
    cases isNone
  · rename_i isFound
    rw [isSome] at isFound
    cases isFound
    rfl

/-- A blank or a comment in front of a token only moves the token. -/
theorem nextToken_trivia {lexer : Lexer} {item after : List Char}
    (isTrivia : triviaItem? lexer.rest = some (item, after)) :
    lexer.nextToken =
      { lexer with rest := after, position := lexer.position.after item }.nextToken := by
  unfold nextToken
  simp only [skipTrivia_of_some isTrivia, Position.after_append]

theorem nextToken_of_scansAs
    {lexer : Lexer} {content : TokenContent} {lexeme rest : List Char}
    (scans : ScansAs content lexeme rest)
    (isAt : lexer.rest = lexeme ++ rest) :
    lexer.nextToken =
      (.ok ⟨content, String.ofList lexeme, lexer.position⟩,
        { lexer with
          rest := rest
          position := lexer.position.after lexeme
          phase := .running }) := by
  obtain ⟨first, others, equal, isNone, scanned⟩ := scans
  have isSkipped : skipTrivia lexer.rest = ([], first :: others) := by
    rw [isAt, equal, skipTrivia_of_none isNone]
  exact (Finds.token isSkipped scanned).eq_nextToken

/-- A lexer behind some characters, which a token was read off. -/
def behind (lexer : Lexer) (lexeme rest : List Char) : Lexer :=
  { lexer with rest := rest, position := lexer.position.after lexeme, phase := .running }

theorem next_of_scansAs {lexer : Lexer} {content : TokenContent} {lexeme rest : List Char}
    (isReady : lexer.IsReady)
    (scans : ScansAs content lexeme rest)
    (isAt : lexer.rest = lexeme ++ rest) :
    lexer.next =
      (some (.ok ⟨content, String.ofList lexeme, lexer.position⟩),
        lexer.behind lexeme rest) := by
  rw [next_of_isReady isReady, nextToken_of_scansAs scans isAt]
  rfl

theorem items_eq_cons {lexer : Lexer}
    (isUnlimited : lexer.limit = none)
    (isUnfinished : lexer.phase ≠ .finished) :
    lexer.items = lexer.nextToken.1 :: lexer.nextToken.2.items :=
  items_of_next (next_of_isReady (isReady_of_unlimited isUnlimited isUnfinished))

/-- All items of a lexer depend on nothing but the next token and the lexer behind it. -/
theorem items_eq_of_nextToken_eq {first second : Lexer}
    (firstUnlimited : first.limit = none)
    (firstUnfinished : first.phase ≠ .finished)
    (secondUnlimited : second.limit = none)
    (secondUnfinished : second.phase ≠ .finished)
    (same : first.nextToken = second.nextToken) :
    first.items = second.items := by
  rw [items_eq_cons firstUnlimited firstUnfinished, same,
    items_eq_cons secondUnlimited secondUnfinished]

theorem items_trivia {lexer : Lexer} {item after : List Char}
    (isUnlimited : lexer.limit = none)
    (isUnfinished : lexer.phase ≠ .finished)
    (isTrivia : triviaItem? lexer.rest = some (item, after)) :
    lexer.items =
      { lexer with rest := after, position := lexer.position.after item }.items :=
  items_eq_of_nextToken_eq isUnlimited isUnfinished isUnlimited isUnfinished
    (nextToken_trivia isTrivia)

/-- A lexer in front of nothing gives the end of the query. -/
theorem items_of_nil {lexer : Lexer}
    (isUnlimited : lexer.limit = none)
    (isUnfinished : lexer.phase ≠ .finished)
    (isAt : lexer.rest = []) :
    lexer.items = [.ok (.endAt lexer.position)] := by
  have isSkipped : skipTrivia lexer.rest = ([], []) := by
    rw [isAt, skipTrivia_of_none rfl]
  rw [items_eq_cons isUnlimited isUnfinished, (Finds.ending isSkipped).eq_nextToken,
    items_of_finished rfl]
  rfl

theorem ofItems_items_nil {lexer : Lexer}
    (isUnlimited : lexer.limit = none)
    (isUnfinished : lexer.phase ≠ .finished)
    (isAt : lexer.rest = []) :
    ∃ ending, TokenStream.ofItems lexer.items = ⟨[], .ok ending⟩ := by
  rw [items_of_nil isUnlimited isUnfinished isAt]
  exact ⟨.endAt lexer.position, rfl⟩

/--
A lexer in front of pieces gives the tokens of the pieces at their places, and comes to
what is behind them.
-/
theorem exists_items_of_pieces
    {pieces : List Piece} {lexer : Lexer} {rest : List Char}
    (isUnlimited : lexer.limit = none)
    (isUnfinished : lexer.phase ≠ .finished)
    (isAt : lexer.rest = (Piece.textOf pieces).toList ++ rest)
    (areReadable : ∀ piece ∈ pieces, piece.IsReadable)
    (isChain : pieces.IsChain Piece.MayTouch)
    (endsApart : rest = [] ∨ ∀ last ∈ pieces.getLast?, last.isSeparator = true) :
    ∃ (tokens : List Token) (behind : Lexer),
      behind.limit = none ∧ behind.phase ≠ .finished ∧ behind.rest = rest ∧
        behind.position = lexer.position.after (Piece.textOf pieces).toList ∧
        Piece.AreReadFrom lexer.position pieces tokens ∧
        lexer.items = tokens.map .ok ++ behind.items := by
  induction pieces generalizing lexer with
  | nil => exact ⟨[], lexer, isUnlimited, isUnfinished, isAt, rfl, .nil, rfl⟩
  | cons piece pieces ih =>
      obtain ⟨isReadable, restReadable⟩ := List.forall_mem_cons.mp areReadable
      have restEndsApart :
          rest = [] ∨ ∀ last ∈ pieces.getLast?, last.isSeparator = true := by
        exact endsApart.imp_right fun isSeparator last isLast =>
          isSeparator last (List.mem_getLast?_cons isLast)
      rw [Piece.toList_textOf_cons, List.append_assoc] at isAt
      rw [Piece.toList_textOf_cons, Position.after_append]
      rcases isReadable with rfl | ⟨content, reads⟩
      · have isSpace :
            triviaItem? lexer.rest = some ([' '], (Piece.textOf pieces).toList ++ rest) := by
          rw [isAt]
          rfl
        rw [items_trivia isUnlimited isUnfinished isSpace]
        obtain ⟨tokens, behind, unlimited, unfinished, isBehind, isPlace, areRead, equal⟩ :=
          @ih { lexer with
            rest := (Piece.textOf pieces).toList ++ rest
            position := lexer.position.after [' '] }
            isUnlimited isUnfinished rfl restReadable isChain.tail restEndsApart
        exact
          ⟨tokens, behind, unlimited, unfinished, isBehind, isPlace, .space areRead, equal⟩
      · have scans := reads.scansAs (Piece.isApart_of_isChain restReadable isChain endsApart)
        have step := nextToken_of_scansAs scans isAt
        obtain ⟨tokens, behind, unlimited, unfinished, isBehind, isPlace, areRead, equal⟩ :=
          @ih lexer.nextToken.2 (by rw [step]; exact isUnlimited) (by rw [step]; simp)
            (by rw [step]) restReadable isChain.tail restEndsApart
        rw [step] at isPlace areRead equal
        refine
          ⟨⟨content, piece.text, lexer.position⟩ :: tokens, behind, unlimited, unfinished,
            isBehind, isPlace, .token reads areRead, ?_⟩
        rw [items_eq_cons isUnlimited isUnfinished, step, equal, String.ofList_toList]
        rfl

/--
A lexer in front of pieces reads the tokens of the pieces, and comes to what is behind
them.
-/
theorem ofItems_items_of_pieces
    {pieces : List Piece} {lexer : Lexer} {rest : List Char}
    (isUnlimited : lexer.limit = none)
    (isUnfinished : lexer.phase ≠ .finished)
    (isAt : lexer.rest = (Piece.textOf pieces).toList ++ rest)
    (areReadable : ∀ piece ∈ pieces, piece.IsReadable)
    (isChain : pieces.IsChain Piece.MayTouch)
    (endsApart : rest = [] ∨ ∀ last ∈ pieces.getLast?, last.isSeparator = true) :
    ∃ (tokens : List Token) (behind : Lexer),
      behind.limit = none ∧ behind.phase ≠ .finished ∧ behind.rest = rest ∧
        Piece.AreReadAs pieces tokens ∧
        TokenStream.ofItems lexer.items =
          ⟨tokens ++ (TokenStream.ofItems behind.items).tokens,
            (TokenStream.ofItems behind.items).ending⟩ := by
  obtain ⟨tokens, behind, unlimited, unfinished, isBehind, _, areRead, equal⟩ :=
    exists_items_of_pieces isUnlimited isUnfinished isAt areReadable isChain endsApart
  refine ⟨tokens, behind, unlimited, unfinished, isBehind, areRead.areReadAs, ?_⟩
  rw [equal, TokenStream.ofItems_append areRead.areUnended]

end Lexer

/-- The text of readable pieces that keep apart holds their tokens, and no error. -/
theorem TokenStream.exists_ofSource_textOf
    {pieces : List Piece}
    (areReadable : ∀ piece ∈ pieces, piece.IsReadable)
    (isChain : pieces.IsChain Piece.MayTouch) :
    ∃ tokens ending,
      ofSource (Piece.textOf pieces) none = ⟨tokens, .ok ending⟩ ∧
        Piece.AreReadAs pieces tokens := by
  obtain ⟨tokens, behind, isUnlimited, isUnfinished, isBehind, areRead, equal⟩ :=
    @Lexer.ofItems_items_of_pieces pieces (Lexer.new (Piece.textOf pieces) none) [] rfl
      (by simp [Lexer.new]) (List.append_nil _).symm areReadable isChain (Or.inl rfl)
  obtain ⟨ending, isEnd⟩ := Lexer.ofItems_items_nil isUnlimited isUnfinished isBehind
  rw [isEnd, List.append_nil] at equal
  exact ⟨tokens, ending, equal, areRead⟩

end EventQuery
