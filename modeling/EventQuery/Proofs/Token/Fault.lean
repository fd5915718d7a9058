import EventQuery.Proofs.Token.Layout

/-!
# The character that an error of a lexer names

An error about characters names the character that stands at its place.  The one
exception is a query whose limit falls inside its last character: then no character
starts beyond the limit, and the error stands behind the query and names a blank:
`names_character_iff`.
-/

namespace EventQuery

/-! ## Characters at places -/

/-- Whether a character of a text stands at a place. -/
def StandsAt (text : List Char) (character : Char) (position : Position) : Prop :=
  ∃ front back, text = front ++ character :: back ∧ position = .behind front

/-- The place behind some characters is not the place behind more of them. -/
theorem Position.behind_append_ne {front more : List Char} (isMore : more ≠ []) :
    behind (front ++ more) ≠ behind front := by
  intro isSame
  have sameLine : (front ++ more).count '\n' = front.count '\n' := by
    have isLine := congrArg Position.line isSame
    simp only [behind] at isLine
    omega
  -- Without a line feed among them the characters only move the column.
  have isOneLine : ∀ character ∈ more.reverse, (character != '\n') = true := by
    intro character isIn
    rw [List.count_append, Nat.add_eq_left, List.count_eq_zero] at sameLine
    rw [bne_iff_ne]
    rintro rfl
    exact sameLine (List.mem_reverse.mp isIn)
  have isColumn := congrArg Position.column isSame
  simp only [behind, List.reverse_append, List.takeWhile_append_of_pos isOneLine,
    List.length_append, List.length_reverse] at isColumn
  have isLong := List.length_pos_iff.mpr isMore
  omega

/-- No character stands behind a text. -/
theorem not_standsAt_behind (text : List Char) (character : Char) :
    ¬ StandsAt text character (.behind text) := by
  rintro ⟨front, back, rfl, isPlace⟩
  exact Position.behind_append_ne (List.cons_ne_nil character back) isPlace

/-! ## Faults of tokens -/

/-- A fault of a token names the character that the token starts with. -/
theorem character_of_scan {first : Char} {rest : List Char} {fault : LexFault}
    (fails : scan first rest = .error fault) :
    fault.character = first := by
  have scans := scansTo_scan first rest
  rw [fails] at scans
  cases scans with
  | unterminatedString => rfl
  | emptyName isQuote => exact isQuote.symm
  | unterminatedName isQuote => exact isQuote.symm
  | numberOutOfRange isDigit =>
      rw [LexFault.character, leadingDigits, List.takeWhile_cons_of_pos isDigit]
      rfl
  | unterminatedComment isSlash => exact isSlash.symm
  | strayCharacter => rfl

namespace Lexer

/-- An error of the next token stands at a character behind some trivia, and names it. -/
theorem standsAt_nextToken {lexer : Lexer} {before : List Char} {position : Position}
    {fault : LexFault}
    (isPlace : lexer.position = .behind before)
    (fails : lexer.nextToken.1 = .error (.lex position fault)) :
    StandsAt (before ++ lexer.rest) fault.character position := by
  have finds := lexer.finds_nextToken
  have isAll := skipTrivia_append lexer.rest
  generalize lexer.nextToken = step at finds fails
  cases finds with
  | ending isSkipped => cases fails
  | @fault gap others first _ isSkipped scanFails =>
      cases fails
      rw [isSkipped] at isAll
      refine ⟨before ++ gap, others, ?_, ?_⟩
      · rw [character_of_scan scanFails, List.append_assoc, isAll]
      · rw [isPlace, Position.after_behind]
  | token isSkipped found => cases fails

/-- A lexer that goes on names in its error the character that stands there. -/
theorem standsAt_of_mem_items {lexer : Lexer} {before : List Char} {position : Position}
    {fault : LexFault}
    (isReady : lexer.IsReady)
    (isPlace : lexer.position = .behind before)
    (isIn : .error (.lex position fault) ∈ lexer.items) :
    StandsAt (before ++ lexer.rest) fault.character position := by
  have gives := next_of_isReady isReady
  have isCloser := pending_next_lt gives
  have stands := @standsAt_nextToken lexer before position fault isPlace
  have passes := lexer.passesOver_nextToken
  rw [items_of_next gives] at isIn
  generalize lexer.nextToken = step at passes isCloser isIn stands
  cases passes with
  | ending isTrivia isDone =>
      rw [items_of_finished isDone] at isIn
      cases List.mem_singleton.mp isIn
  | fault error isDone =>
      rw [items_of_finished isDone] at isIn
      exact stands (List.mem_singleton.mp isIn).symm
  | @token gap token after isNoEnd isTrivia isAll isTokenPlace isPlaceAfter goesOn =>
      rw [isPlace, Position.after_behind] at isTokenPlace
      rw [isTokenPlace, Position.after_behind] at isPlaceAfter
      rcases List.mem_cons.mp isIn with isNext | isLater
      · cases isNext
      · have standsLater := standsAt_of_mem_items (.inl goesOn) isPlaceAfter isLater
        rw [isAll]
        simpa only [List.append_assoc] using standsLater
termination_by lexer.pending

end Lexer

/-! ## The limit on the length -/

theorem splitAtByte_append (bytes : Nat) (characters : List Char) :
    (splitAtByte bytes characters).1 ++ (splitAtByte bytes characters).2 = characters := by
  induction characters generalizing bytes with
  | nil => rfl
  | cons character rest ih =>
      rw [splitAtByte]
      split
      · rfl
      · rw [List.cons_append, ih]

/-- Nothing starts at a byte or behind it exactly if the last character starts in front of it. -/
theorem splitAtByte_eq_nil_iff (bytes : Nat) (front : List Char) (last : Char) :
    (splitAtByte bytes (front ++ [last])).2 = [] ↔ byteLength front < bytes := by
  induction front generalizing bytes with
  | nil =>
      rw [List.nil_append, splitAtByte]
      split
      · rename_i isStart
        simp [isStart]
      · rename_i isLater
        simp [splitAtByte, byteLength, Nat.pos_of_ne_zero isLater]
  | cons character front ih =>
      rw [List.cons_append, splitAtByte]
      split
      · rename_i isStart
        simp [isStart]
      · have isSplit := ih (bytes - character.utf8Size)
        have isLong : byteLength (character :: front) = character.utf8Size + byteLength front :=
          rfl
        rw [isSplit, isLong]
        omega

/-- Whether a limit on the bytes of a text falls inside its last character. -/
def CutsLast (limit : Option Nat) (text : List Char) : Prop :=
  ∃ bound front last,
    limit = some bound ∧ text = front ++ [last] ∧ byteLength front < bound ∧
      bound < byteLength text

/-- Nothing is beyond a limit that is exceeded exactly if it falls inside the last character. -/
theorem splitAtByte_eq_nil_iff_cutsLast {bound : Nat} {text : List Char}
    (exceeds : bound < byteLength text) :
    (splitAtByte bound text).2 = [] ↔ CutsLast (some bound) text := by
  constructor
  · intro isNothing
    rcases List.eq_nil_or_concat text with rfl | ⟨front, last, rfl⟩
    · cases exceeds
    · rw [List.concat_eq_append] at *
      exact ⟨bound, front, last, rfl, rfl, (splitAtByte_eq_nil_iff _ _ _).mp isNothing, exceeds⟩
  · rintro ⟨bound', front, last, isBound, rfl, isFront, -⟩
    cases isBound
    exact (splitAtByte_eq_nil_iff _ _ _).mpr isFront

variable {source : String} {limit : Option Nat} {position : Position} {fault : LexFault}

/-- A limit that a text is within falls inside no character of it. -/
theorem not_cutsLast_of_fits (fits : FitsWithin source limit) :
    ¬ CutsLast limit source.toList := by
  rintro ⟨bound, front, last, isLimit, -, -, exceeds⟩
  rw [byteLength_toList] at exceeds
  exact Nat.not_lt.mpr (fits bound isLimit) exceeds

/--
An error of a lexer stands at a character of the text and names it, unless the limit
on the length falls inside the last character.  Then it stands behind the text, and
names a blank.
-/
theorem Lexer.names_character_iff
    (isError : .error (.lex position fault) ∈ (new source limit).items) :
    (StandsAt source.toList fault.character position ↔ ¬ CutsLast limit source.toList) ∧
      (CutsLast limit source.toList →
        position = .behind source.toList ∧ fault.character = ' ') := by
  rcases fitsWithin_or_exceeds source limit with fits | ⟨bound, rfl, exceeds⟩
  · have isNotCut := not_cutsLast_of_fits fits
    have stands : StandsAt source.toList fault.character position :=
      @standsAt_of_mem_items _ [] _ _ (isReady_new fits) rfl isError
    exact ⟨iff_of_true stands isNotCut, fun isCut => absurd isCut isNotCut⟩
  · rw [items_of_overlength? (overlength?_of_exceeds exceeds), List.mem_singleton] at isError
    cases isError
    have isAll := splitAtByte_append bound source.toList
    rw [← byteLength_toList] at exceeds
    rw [← splitAtByte_eq_nil_iff_cutsLast exceeds]
    have isPlace : Position.start.after (splitAtByte bound source.toList).1 =
        .behind (splitAtByte bound source.toList).1 :=
      Position.after_behind [] _
    rw [isPlace]
    cases isBeyond : (splitAtByte bound source.toList).2 with
    | nil =>
        rw [isBeyond, List.append_nil] at isAll
        rw [isAll]
        exact ⟨iff_of_false (not_standsAt_behind _ _) fun isMore => isMore rfl,
          fun _ => ⟨rfl, rfl⟩⟩
    | cons first others =>
        rw [isBeyond] at isAll
        have stands : StandsAt source.toList first
            (.behind (splitAtByte bound source.toList).1) :=
          ⟨_, others, isAll.symm, rfl⟩
        have isMore : first :: others ≠ [] := List.cons_ne_nil _ _
        exact ⟨iff_of_true stands isMore, fun isNothing => absurd isNothing isMore⟩

/-- A limit inside the second of three characters is reported at the third. -/
theorem Lexer.names_character_iff_third :
    .error (.lex ⟨1, 3⟩ (.tooLong 2 'b')) ∈ (new "aéb" (some 2)).items ∧
      StandsAt "aéb".toList 'b' ⟨1, 3⟩ := by
  have isError : .error (.lex ⟨1, 3⟩ (.tooLong 2 'b')) ∈ (new "aéb" (some 2)).items := by
    rw [items_of_overlength? rfl]
    exact List.mem_singleton.mpr rfl
  have exceeds : 2 < byteLength "aéb".toList := by decide
  have isNotCut : ¬ CutsLast (some 2) "aéb".toList :=
    mt (splitAtByte_eq_nil_iff_cutsLast exceeds).mpr (by decide)
  exact ⟨isError, (names_character_iff isError).1.mpr isNotCut⟩

/-- A limit inside the only character is reported behind it, where none stands. -/
theorem Lexer.not_standsAt_insideCharacter :
    (new "é" (some 1)).items = [.error (.lex ⟨1, 2⟩ (.tooLong 1 ' '))] ∧
      ¬ StandsAt "é".toList (LexFault.tooLong 1 ' ').character ⟨1, 2⟩ :=
  ⟨items_of_overlength? rfl, not_standsAt_behind "é".toList ' '⟩

end EventQuery
