import EventQuery.Proofs.Token.Items

/-!
# The limit on the length

The length of a query is looked at once, in front of its first token.  A query
within the limit gives the same items under every limit that it is within, and
a longer one gives one error and nothing else: `ofSource_eq_of_fits` and
`ofSource_of_exceeds`.  No other error says that a query is too long.
-/

namespace EventQuery

/-- The bytes of the characters of a text are those of the text. -/
theorem byteLength_toList (source : String) :
    byteLength source.toList = source.utf8ByteSize := by
  have counts (characters : List Char) :
      byteLength characters = (String.ofList characters).utf8ByteSize := by
    induction characters with
    | nil => rfl
    | cons character rest ih =>
        rw [String.ofList_cons, String.utf8ByteSize_append, String.utf8ByteSize_singleton, ← ih]
        rfl
  rw [counts, String.ofList_toList]

/-! ## Errors about the length -/

/-- Whether a fault is about the length of a query. -/
def LexFault.isAboutLength : LexFault → Bool
  | tooLong _ _ => true
  | _ => false

/-- No token fails because its query is too long. -/
theorem isAboutLength_scan {first : Char} {rest : List Char} {fault : LexFault}
    (fails : scan first rest = .error fault) :
    fault.isAboutLength = false := by
  have scans := scansTo_scan first rest
  rw [fails] at scans
  cases scans <;> rfl

namespace Lexer

/-! ## Lexers that stand together -/

/-- Two lexers in front of the same characters at the same place. -/
structure StandTogether (first second : Lexer) : Prop where
  rest : first.rest = second.rest
  position : first.position = second.position

/--
The next token depends on nothing but the characters and the place, and so does
whether there are more.
-/
theorem nextToken_of_standTogether {first second : Lexer}
    (together : first.StandTogether second) :
    first.nextToken.1 = second.nextToken.1 ∧
      first.nextToken.2.StandTogether second.nextToken.2 ∧
      (first.nextToken.2.phase = .finished ∧ second.nextToken.2.phase = .finished ∨
        first.nextToken.2.phase = .running ∧ second.nextToken.2.phase = .running) := by
  obtain ⟨rest, position⟩ := together
  unfold nextToken
  rw [rest, position]
  dsimp only
  split
  · exact ⟨rfl, ⟨rfl, rfl⟩, .inl ⟨rfl, rfl⟩⟩
  · split
    · exact ⟨rfl, ⟨rfl, rfl⟩, .inl ⟨rfl, rfl⟩⟩
    · exact ⟨rfl, ⟨rfl, rfl⟩, .inr ⟨rfl, rfl⟩⟩

/-- Lexers that stand together give the same items once they are ready. -/
theorem items_eq_of_standTogether {first second : Lexer}
    (together : first.StandTogether second)
    (isReady : first.IsReady)
    (isOtherReady : second.IsReady) :
    first.items = second.items := by
  have gives := next_of_isReady isReady
  have otherGives := next_of_isReady isOtherReady
  have isCloser := pending_next_lt gives
  obtain ⟨sameItem, togetherAfter, phases⟩ := nextToken_of_standTogether together
  rw [items_of_next gives, items_of_next otherGives, sameItem]
  rcases phases with ⟨isDone, isOtherDone⟩ | ⟨goesOn, otherGoesOn⟩
  · rw [items_of_finished isDone, items_of_finished isOtherDone]
  · rw [items_eq_of_standTogether togetherAfter (.inl goesOn) (.inl otherGoesOn)]
termination_by first.pending

/-- No next token fails because the query is too long. -/
theorem isAboutLength_nextToken {lexer : Lexer} {position : Position} {fault : LexFault}
    (fails : lexer.nextToken.1 = .error (.lex position fault)) :
    fault.isAboutLength = false := by
  have finds := lexer.finds_nextToken
  generalize lexer.nextToken = step at finds fails
  cases finds with
  | ending isSkipped => cases fails
  | fault isSkipped scanFails =>
      cases fails
      exact isAboutLength_scan scanFails
  | token isSkipped found => cases fails

/-- A lexer that is ready gives no error about the length. -/
theorem isAboutLength_items {lexer : Lexer} {position : Position} {fault : LexFault}
    (isReady : lexer.IsReady)
    (isIn : .error (.lex position fault) ∈ lexer.items) :
    fault.isAboutLength = false := by
  have gives := next_of_isReady isReady
  have isCloser := pending_next_lt gives
  rw [items_of_next gives] at isIn
  rcases List.mem_cons.mp isIn with isNext | isLater
  · exact isAboutLength_nextToken isNext.symm
  · obtain ⟨_, _, phases⟩ := @nextToken_of_standTogether lexer lexer ⟨rfl, rfl⟩
    rcases phases with ⟨isDone, _⟩ | ⟨goesOn, _⟩
    · rw [items_of_finished isDone] at isLater
      cases isLater
    · exact isAboutLength_items (.inl goesOn) isLater
termination_by lexer.pending

end Lexer

/-! ## Queries within a limit and beyond it -/

/-- A text has no more bytes than a limit allows. -/
def FitsWithin (source : String) (limit : Option Nat) : Prop :=
  ∀ bound, limit = some bound → source.utf8ByteSize ≤ bound

/-- A text fits, or there is a limit and it has more bytes than that. -/
theorem fitsWithin_or_exceeds (source : String) (limit : Option Nat) :
    FitsWithin source limit ∨ ∃ bound, limit = some bound ∧ bound < source.utf8ByteSize := by
  cases limit with
  | none => exact .inl fun _ isLimit => nomatch isLimit
  | some bound =>
      rcases Nat.lt_or_ge bound source.utf8ByteSize with isLonger | isShort
      · exact .inr ⟨bound, rfl, isLonger⟩
      · exact .inl fun _ isLimit => Option.some.inj isLimit ▸ isShort

theorem Lexer.isReady_new {source : String} {limit : Option Nat}
    (fits : FitsWithin source limit) :
    (new source limit).IsReady := by
  refine .inr ⟨rfl, ?_⟩
  unfold overlength? new
  cases limit with
  | none => rfl
  | some bound =>
      have isShort := fits bound rfl
      rw [← byteLength_toList] at isShort
      exact if_pos isShort

/-- A lexer that refuses its text for the length gives that error, and nothing else. -/
theorem Lexer.items_of_overlength? {source : String} {limit : Option Nat} {error : QueryError}
    (refuses : (new source limit).overlength? = some error) :
    (new source limit).items = [.error error] := by
  have gives :
      (new source limit).next =
        (some (.error error), { new source limit with phase := .finished }) := by
    rw [next, refuses]
    rfl
  rw [items_of_next gives, items_of_finished rfl]

/-- The error of a text that is too long stands where the limit is passed. -/
theorem Lexer.overlength?_of_exceeds {source : String} {bound : Nat}
    (exceeds : bound < source.utf8ByteSize) :
    (new source (some bound)).overlength? =
      some (.lex (Position.start.after (splitAtByte bound source.toList).1)
        (.tooLong bound ((splitAtByte bound source.toList).2.headD ' '))) := by
  have isLong : ¬ byteLength source.toList ≤ bound := by
    rw [byteLength_toList]
    exact Nat.not_le.mpr exceeds
  exact if_neg isLong

/-- A lexer of a text that is too long gives the error that says so, and nothing else. -/
theorem Lexer.items_of_exceeds {source : String} {bound : Nat}
    (exceeds : bound < source.utf8ByteSize) :
    ∃ position character,
      (new source (some bound)).items = [.error (.lex position (.tooLong bound character))] :=
  ⟨_, _, items_of_overlength? (overlength?_of_exceeds exceeds)⟩

namespace TokenStream

variable {source : String} {limit other : Option Nat}

/-- Limits that a text fits within make no difference to its tokens. -/
theorem ofSource_eq_of_fits
    (fits : FitsWithin source limit)
    (otherFits : FitsWithin source other) :
    ofSource source limit = ofSource source other := by
  have sameItems : (Lexer.new source limit).items = (Lexer.new source other).items :=
    Lexer.items_eq_of_standTogether ⟨rfl, rfl⟩ (Lexer.isReady_new fits)
      (Lexer.isReady_new otherFits)
  exact congrArg ofItems sameItems

/-- What comes behind the tokens of a text that fits is no error about its length. -/
theorem isAboutLength_ofSource {position : Position} {fault : LexFault}
    (fits : FitsWithin source limit)
    (ends : (ofSource source limit).ending = .error (.lex position fault)) :
    fault.isAboutLength = false := by
  have isIn : .error (.lex position fault) ∈ (Lexer.new source limit).items := by
    rw [items_eq_ofSource, ends]
    exact List.mem_append_right _ List.mem_cons_self
  exact Lexer.isAboutLength_items (Lexer.isReady_new fits) isIn

/-- A text that is too long has no tokens, only the error that says so. -/
theorem ofSource_of_exceeds {bound : Nat}
    (exceeds : bound < source.utf8ByteSize) :
    ∃ position character,
      ofSource source (some bound) = ⟨[], .error (.lex position (.tooLong bound character))⟩ := by
  obtain ⟨position, character, isAll⟩ := Lexer.items_of_exceeds exceeds
  refine ⟨position, character, ?_⟩
  rw [ofSource, isAll]
  rfl

end TokenStream

end EventQuery
