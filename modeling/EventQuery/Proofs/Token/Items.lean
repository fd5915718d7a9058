import EventQuery.Proofs.Token.Meaning
import EventQuery.Proofs.Token.Stream

/-!
# What a lexer gives

`Finds` says what one step of a lexer comes to, and what is shown of its steps is
read off that.  The items of a lexer are tokens that are not the end of the query,
and behind them either that end or the one error.  So a stream holds all the items
of its query, and what comes behind its tokens is the last of them.
-/

namespace EventQuery

/-! ## No token of a query is its end -/

theorem isNoEnd_scan {first : Char} {rest : List Char} {scanned : Scanned}
    (found : scan first rest = .ok scanned) :
    scanned.content ≠ .endOfInput := by
  have scans := scansTo_scan first rest
  rw [found] at scans
  cases scans with
  | word starts =>
      rcases content_scanWord (first :: rest) with ⟨word, isWord⟩ | isName
      · exact isWord ▸ TokenContent.noConfusion
      · exact isName ▸ TokenContent.noConfusion
  | narrowSymbol isSymbol =>
      cases isSymbol_of_narrowSymbol? isSymbol <;> exact TokenContent.noConfusion
  | _ => exact TokenContent.noConfusion

/-! ## One step of a lexer -/

namespace Lexer

/--
What a lexer comes to behind the blanks and comments in front of it: the end of its
query, the fault of a token that starts there, or that token.
-/
inductive Finds (lexer : Lexer) : Except QueryError Token × Lexer → Prop where
  | ending {gap : List Char}
      (isSkipped : skipTrivia lexer.rest = (gap, [])) :
      Finds lexer
        (.ok (.endAt (lexer.position.after gap)),
          { lexer with
            rest := []
            position := lexer.position.after gap
            phase := .finished })
  | fault {gap others : List Char} {first : Char} {fault : LexFault}
      (isSkipped : skipTrivia lexer.rest = (gap, first :: others))
      (fails : scan first others = .error fault) :
      Finds lexer
        (.error (.lex (lexer.position.after gap) fault),
          { lexer with
            rest := first :: others
            position := lexer.position.after gap
            phase := .finished })
  | token {gap others : List Char} {first : Char} {scanned : Scanned}
      (isSkipped : skipTrivia lexer.rest = (gap, first :: others))
      (found : scan first others = .ok scanned) :
      Finds lexer
        (.ok ⟨scanned.content, String.ofList scanned.lexeme, lexer.position.after gap⟩,
          { lexer with
            rest := scanned.rest
            position := (lexer.position.after gap).after scanned.lexeme
            phase := .running })

theorem finds_nextToken (lexer : Lexer) : lexer.Finds lexer.nextToken := by
  unfold nextToken
  cases isSkipped : skipTrivia lexer.rest with
  | mk gap characters =>
      cases characters with
      | nil => exact .ending isSkipped
      | cons first others =>
          dsimp only
          cases scans : scan first others with
          | error fault => exact .fault isSkipped scans
          | ok scanned => exact .token isSkipped scans

theorem Finds.eq_nextToken {lexer : Lexer} {step : Except QueryError Token × Lexer}
    (finds : lexer.Finds step) :
    lexer.nextToken = step := by
  unfold nextToken
  cases finds with
  | ending isSkipped => rw [isSkipped]
  | fault isSkipped fails => simp only [isSkipped, fails]
  | token isSkipped found => simp only [isSkipped, found]

/-- Whether a lexer may read a token: its query is not too long. -/
def IsReady (lexer : Lexer) : Prop :=
  lexer.phase = .running ∨ lexer.phase = .fresh ∧ lexer.overlength? = none

theorem next_of_isReady {lexer : Lexer} (isReady : lexer.IsReady) :
    lexer.next = (some lexer.nextToken.1, lexer.nextToken.2) := by
  unfold next
  rcases isReady with isRunning | ⟨isFresh, isShort⟩
  · rw [isRunning]
  · rw [isFresh, isShort]

theorem isReady_of_unlimited {lexer : Lexer}
    (isUnlimited : lexer.limit = none)
    (isUnfinished : lexer.phase ≠ .finished) :
    lexer.IsReady := by
  cases phase : lexer.phase with
  | fresh => exact .inr ⟨phase, by rw [overlength?, isUnlimited]⟩
  | running => exact .inl phase
  | finished => exact absurd phase isUnfinished

/-- A lexer is finished, or its query is found too long, or it gives its next token. -/
theorem next_cases (lexer : Lexer) :
    (lexer.phase = .finished ∧ lexer.next = (none, lexer)) ∨
      (∃ limit character position,
        lexer.next =
          (some (.error (.lex position (.tooLong limit character))),
            { lexer with phase := .finished })) ∨
      lexer.IsReady ∧ lexer.next = (some lexer.nextToken.1, lexer.nextToken.2) := by
  cases phase : lexer.phase with
  | finished => exact .inl ⟨rfl, by rw [next, phase]⟩
  | running => exact .inr (.inr ⟨.inl phase, next_of_isReady (.inl phase)⟩)
  | fresh =>
      cases tooLong : lexer.overlength? with
      | none =>
          exact .inr (.inr ⟨.inr ⟨phase, tooLong⟩, next_of_isReady (.inr ⟨phase, tooLong⟩)⟩)
      | some error =>
          have gives : lexer.next = (some (.error error), { lexer with phase := .finished }) := by
            rw [next, phase]
            dsimp only
            rw [tooLong]
          unfold overlength? at tooLong
          split at tooLong
          · cases tooLong
          · split at tooLong
            · cases tooLong
            · cases tooLong
              exact .inr (.inl ⟨_, _, _, gives⟩)

/-- What a lexer that is not finished gives, and whether it goes on after that. -/
inductive IsStep : Except QueryError Token × Lexer → Prop where
  | token {token : Token} {after : Lexer}
      (isNoEnd : token.content ≠ .endOfInput)
      (goesOn : after.phase = .running) :
      IsStep (.ok token, after)
  | ending (position : Position) {after : Lexer}
      (isDone : after.phase = .finished) :
      IsStep (.ok (.endAt position), after)
  | fault (position : Position) (fault : LexFault) {after : Lexer}
      (isDone : after.phase = .finished) :
      IsStep (.error (.lex position fault), after)

theorem isStep_nextToken (lexer : Lexer) : IsStep lexer.nextToken := by
  have finds := lexer.finds_nextToken
  generalize lexer.nextToken = step at finds ⊢
  cases finds with
  | ending isSkipped => exact .ending _ rfl
  | fault isSkipped fails => exact .fault _ _ rfl
  | token isSkipped found => exact .token (isNoEnd_scan found) rfl

theorem isStep_next {lexer : Lexer} (isOn : lexer.phase ≠ .finished) :
    ∃ item after, lexer.next = (some item, after) ∧ IsStep (item, after) := by
  rcases lexer.next_cases with ⟨isDone, _⟩ | ⟨limit, character, position, gives⟩ | ⟨_, gives⟩
  · exact absurd isDone isOn
  · exact ⟨_, _, gives, .fault position _ rfl⟩
  · exact ⟨_, _, gives, lexer.isStep_nextToken⟩

theorem items_of_finished {lexer : Lexer} (isDone : lexer.phase = .finished) :
    lexer.items = [] := by
  have givesNothing : lexer.next = (none, lexer) := by
    rw [next, isDone]
  rw [items]
  split
  · rfl
  · rename_i item after gives
    rw [givesNothing] at gives
    cases gives

theorem items_of_next {lexer after : Lexer} {item : Except QueryError Token}
    (gives : lexer.next = (some item, after)) :
    lexer.items = item :: after.items := by
  rw [items]
  split
  · rename_i nothing
    rw [gives] at nothing
    cases nothing
  · rename_i givesToo
    rw [gives] at givesToo
    cases givesToo
    rfl

/-- Every token among the items of a lexer is the next one of some lexer. -/
theorem exists_nextToken_of_mem_items {lexer : Lexer} {token : Token}
    (isIn : .ok token ∈ lexer.items) :
    ∃ other : Lexer, other.nextToken.1 = .ok token := by
  fun_induction items lexer with
  | case1 => cases isIn
  | case2 lexer item after gives ih =>
      rcases List.mem_cons.mp isIn with rfl | isLater
      · rcases lexer.next_cases with ⟨_, givesToo⟩ | ⟨_, _, _, givesToo⟩ | ⟨_, givesToo⟩
        · cases gives.symm.trans givesToo
        · cases gives.symm.trans givesToo
        · exact ⟨lexer, (Option.some.inj (Prod.mk.inj (gives.symm.trans givesToo)).1).symm⟩
      · exact ih isLater

/-! ## All items of a lexer -/

/-- Items of which the last one is the end of the query or an error, and no other. -/
inductive AreWhole : List (Except QueryError Token) → Prop where
  | ending (position : Position) :
      AreWhole [.ok (.endAt position)]
  | fault (position : Position) (fault : LexFault) :
      AreWhole [.error (.lex position fault)]
  | token {token : Token} {items : List (Except QueryError Token)}
      (isNoEnd : token.content ≠ .endOfInput)
      (areWhole : AreWhole items) :
      AreWhole (.ok token :: items)

theorem areWhole_items {lexer : Lexer} (isOn : lexer.phase ≠ .finished) :
    AreWhole lexer.items := by
  obtain ⟨item, after, gives, isStep⟩ := isStep_next isOn
  have isCloser := pending_next_lt gives
  rw [items_of_next gives]
  cases isStep with
  | token isNoEnd goesOn =>
      refine .token isNoEnd (areWhole_items ?_)
      rw [goesOn]
      exact LexerPhase.noConfusion
  | ending position isDone =>
      rw [items_of_finished isDone]
      exact .ending position
  | fault position fault isDone =>
      rw [items_of_finished isDone]
      exact .fault position fault
termination_by lexer.pending

theorem areWhole_items_new (source : String) (limit : Option Nat) :
    AreWhole (new source limit).items :=
  areWhole_items LexerPhase.noConfusion

end Lexer

namespace TokenStream

open Lexer

/-- A stream of whole items holds all of them. -/
theorem eq_items_of_areWhole {items : List (Except QueryError Token)}
    (areWhole : AreWhole items) :
    items = (ofItems items).tokens.map .ok ++ [(ofItems items).ending] := by
  induction areWhole with
  | ending position => rfl
  | fault position fault => rfl
  | @token token items isNoEnd areWhole ih =>
      rw [ofItems, if_neg isNoEnd, cons, List.map_cons, List.cons_append, ← ih]

/-- The error behind the tokens of a stream is one about characters. -/
theorem isLex_of_areWhole {items : List (Except QueryError Token)} {error : QueryError}
    (areWhole : AreWhole items)
    (ends : (ofItems items).ending = .error error) :
    ∃ position fault, error = .lex position fault := by
  induction areWhole with
  | ending position => cases ends
  | fault position fault =>
      cases ends
      exact ⟨position, fault, rfl⟩
  | @token token items isNoEnd areWhole ih =>
      rw [ofItems, if_neg isNoEnd] at ends
      exact ih ends

variable {source : String} {limit : Option Nat}

/-- The items of a query are the tokens of its stream and what comes behind them. -/
theorem items_eq_ofSource (source : String) (limit : Option Nat) :
    (Lexer.new source limit).items =
      (ofSource source limit).tokens.map .ok ++ [(ofSource source limit).ending] :=
  eq_items_of_areWhole (areWhole_items_new source limit)

theorem isLex_of_ofSource {error : QueryError}
    (ends : (ofSource source limit).ending = .error error) :
    ∃ position fault, error = .lex position fault :=
  isLex_of_areWhole (areWhole_items_new source limit) ends

/-- Items without an error are the tokens of a stream that ends with a token. -/
theorem ofSource_of_items {tokens : List Token}
    (items : (Lexer.new source limit).items = tokens.map .ok) :
    ∃ ending, (ofSource source limit).ending = .ok ending ∧
      tokens = (ofSource source limit).tokens ++ [ending] := by
  have all := (items_eq_ofSource source limit).symm.trans items
  cases ends : (ofSource source limit).ending with
  | error error =>
      have isIn : .error error ∈ tokens.map Except.ok := by
        rw [← all, ends]
        exact List.mem_append_right _ List.mem_cons_self
      obtain ⟨token, _, isToken⟩ := List.mem_map.mp isIn
      cases isToken
  | ok ending =>
      refine ⟨ending, rfl, ?_⟩
      rw [ends, ← List.map_singleton, ← List.map_append] at all
      exact ((List.map_inj_right fun _ _ => Except.ok.inj).mp all).symm

end TokenStream

/-! ## Tokens of a text -/

/-- A token with what was read off some characters and with those characters. -/
def Token.IsScanned (token : Token) : Prop :=
  ∃ first rest scanned, scan first rest = .ok scanned ∧
    token.content = scanned.content ∧ token.text = String.ofList scanned.lexeme

theorem Lexer.isScanned_nextToken {lexer : Lexer} {token : Token}
    (gives : lexer.nextToken.1 = .ok token)
    (isNoEnd : token.content ≠ .endOfInput) :
    token.IsScanned := by
  have finds := lexer.finds_nextToken
  generalize lexer.nextToken = step at finds gives
  cases finds with
  | ending isSkipped =>
      cases gives
      exact absurd rfl isNoEnd
  | fault isSkipped fails => cases gives
  | @token gap others first scanned isSkipped found =>
      cases gives
      exact ⟨first, others, scanned, found, rfl, rfl⟩

/-- Every token of a text has the characters that it was read off. -/
theorem TokenStream.isScanned_of_mem {source : String} {limit : Option Nat} {token : Token}
    (isIn : token ∈ (ofSource source limit).tokens) :
    token.IsScanned := by
  have isItem : .ok token ∈ (Lexer.new source limit).items := by
    rw [items_eq_ofSource]
    exact List.mem_append_left _ (List.mem_map_of_mem isIn)
  obtain ⟨lexer, gives⟩ := Lexer.exists_nextToken_of_mem_items isItem
  exact Lexer.isScanned_nextToken gives (isUnended_ofItems _ token isIn)

end EventQuery
