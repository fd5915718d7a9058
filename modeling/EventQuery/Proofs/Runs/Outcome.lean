import EventQuery.Proofs.Grammar.Acceptance
import EventQuery.Proofs.Runs.Query
import EventQuery.Proofs.Token.Items

/-!
# What an outcome depends on

The readers agree with themselves on tokens that say the same, so only what the
tokens say decides what a text is read as, and where its error stands:
`agree_of_items`.  Run beside itself, a text shows where its outcome comes from:
all of its tokens, the error at which its characters stop making tokens, or one
of its tokens: `parseWithin_accounted`.
-/

namespace EventQuery

open Grammar

/-! ## Where errors stand -/

/--
An error that stands at a token and, unless it is about an operand that is no
condition, tells of that token.
-/
inductive QueryError.StandsAt (token : Token) : QueryError → Prop where
  | parse {expected : List Expectation} {found : Found}
      (describes : expected ≠ [.condition] → found.text = token.describe) :
      StandsAt token (.parse token.position expected found)
  | time (fault : TimeFault) :
      StandsAt token (.time token.position fault)

namespace QueryError.StandsAt

variable {token : Token} {error : QueryError}

theorem unexpected (token : Token) (expected : List Expectation) :
    StandsAt token (.unexpected token expected) :=
  .parse fun _ => rfl

theorem notACondition (token : Token) (expression : Expression) :
    StandsAt token (notACondition token expression) :=
  .parse fun isOther => absurd rfl isOther

theorem position_eq (stands : StandsAt token error) : error.position = token.position := by
  cases stands with
  | parse describes => rfl
  | time fault => rfl

theorem isNoLex (stands : StandsAt token error) (position : Position) (fault : LexFault) :
    error ≠ .lex position fault := by
  cases stands with
  | parse describes => exact QueryError.noConfusion
  | time fault => exact QueryError.noConfusion

end QueryError.StandsAt

namespace Grammar.TwoRuns

variable {runs : TwoRuns}

/-- Two errors of the same kind, each at its own one of two corresponding tokens. -/
structure StandAtTwins (Twins : Token → Token → Prop) (error other : QueryError) : Prop where
  stand : ∃ token twin, Twins token twin ∧ error.StandsAt token ∧ other.StandsAt twin
  isSameKind : error.heading = other.heading
  isNotExhausted : error ≠ .exhausted

/-- Errors that agree are the one where the tokens end, or stand at corresponding tokens. -/
theorem ErrorsAgree.ending_or_standAtTwins {error other : QueryError}
    (errors : runs.ErrorsAgree error other) :
    (runs.first.ending = .error error ∧ error = other) ∨
      StandAtTwins runs.Twins error other := by
  cases errors with
  | ending ends => exact .inl ⟨ends, rfl⟩
  | unexpected expected twins =>
      refine .inr ⟨⟨_, _, twins, .unexpected _ _, .unexpected _ _⟩, rfl, fun isExhausted => ?_⟩
      exact Found.noConfusion (QueryError.parse.inj isExhausted).2.2
  | condition expression twins =>
      refine .inr ⟨⟨_, _, twins, .notACondition _ _, .notACondition _ _⟩, rfl,
        fun isExhausted => ?_⟩
      exact Found.noConfusion (QueryError.parse.inj isExhausted).2.2
  | time twins faults =>
      exact .inr ⟨⟨_, _, twins, .time _, .time _⟩, rfl, QueryError.noConfusion⟩

end Grammar.TwoRuns

/-! ## Streams that correspond -/

/-- Two streams whose tokens correspond one by one and that end alike. -/
structure TokenStream.Corresponds (Twins : Token → Token → Prop)
    (first second : TokenStream) : Prop where
  agrees : ∀ {token twin : Token}, Twins token twin → token.Agrees twin
  tokens : List.Forall₂ Twins first.tokens second.tokens
  endings :
    (∃ token twin, first.ending = .ok token ∧ second.ending = .ok twin ∧ Twins token twin) ∨
      ∃ error, first.ending = .error error ∧ second.ending = .error error

namespace TokenStream.Corresponds

variable {Twins : Token → Token → Prop} {first second : TokenStream}

/-- The two runs that read streams that correspond, within one limit on nesting. -/
def runs (corresponds : Corresponds Twins first second) (maxDepth : Nat) : TwoRuns where
  first := ⟨first.ending, maxDepth⟩
  second := ⟨second.ending, maxDepth⟩
  Twins := Twins
  agrees := corresponds.agrees
  endings := corresponds.endings
  isTighter := Nat.le_refl maxDepth

/--
Streams that correspond are read as the same query, or their errors are the
same one at their ends or stand at corresponding tokens.
-/
theorem query (corresponds : Corresponds Twins first second) (maxDepth : Nat) :
    (∃ query, first.query maxDepth = .ok query ∧ second.query maxDepth = .ok query) ∨
      ∃ error other, first.query maxDepth = .error error ∧
        second.query maxDepth = .error other ∧
        ((first.ending = .error error ∧ error = other) ∨
          TwoRuns.StandAtTwins Twins error other) := by
  have agree :
      (corresponds.runs maxDepth).Agree Eq (first.query maxDepth) (second.query maxDepth) :=
    TwoRuns.query_agree ⟨corresponds.tokens, rfl⟩
  generalize first.query maxDepth = outcome at agree ⊢
  generalize second.query maxDepth = otherOutcome at agree ⊢
  cases agree with
  | @ok query other same => exact .inl ⟨query, rfl, congrArg _ same.symm⟩
  | @error error other errors =>
      exact .inr ⟨error, other, rfl, rfl, errors.ending_or_standAtTwins⟩
  | tooDeep _ isLess => exact absurd isLess (Nat.lt_irrefl maxDepth)

end TokenStream.Corresponds

/-! ## Layout and spelling say nothing -/

section Layout

variable {tokens otherTokens : List Token}

/-- Two tokens at the same place of two lists that say the same. -/
structure Token.AreTwins (tokens otherTokens : List Token) (token twin : Token) : Prop where
  agrees : token.Agrees twin
  index : ∃ index : Nat, tokens[index]? = some token ∧ otherTokens[index]? = some twin

/-- In two lists that say the same, tokens at the same place do. -/
theorem areTwins_of_agrees (agree : List.Forall₂ Token.Agrees tokens otherTokens) :
    List.Forall₂ (Token.AreTwins tokens otherTokens) tokens otherTokens := by
  obtain ⟨isSameLength, agrees⟩ := List.forall₂_iff_get.mp agree
  refine List.forall₂_iff_get.mpr ⟨isSameLength, fun index isIn isInOther => ?_⟩
  refine ⟨agrees index isIn isInOther, index, ?_, ?_⟩
  · exact List.getElem?_eq_getElem isIn
  · exact List.getElem?_eq_getElem isInOther

/-- Lists that correspond do so up to their last items, and these correspond too. -/
theorem forall₂_of_concat {α β : Type} {Related : α → β → Prop}
    {items front : List α} {otherItems otherFront : List β} {last : α} {otherLast : β}
    (isConcat : items = front ++ [last])
    (isOtherConcat : otherItems = otherFront ++ [otherLast])
    (related : List.Forall₂ Related items otherItems) :
    List.Forall₂ Related front otherFront ∧ Related last otherLast := by
  subst isConcat isOtherConcat
  have isSameLength : front.length = otherFront.length := by
    simpa using related.length_eq
  have fronts := List.forall₂_take_append _ _ _ related
  have lasts := List.forall₂_drop_append _ _ _ related
  rw [← isSameLength, List.take_left' rfl] at fronts
  rw [← isSameLength, List.drop_left' rfl] at lasts
  exact ⟨fronts, (List.forall₂_cons.mp lasts).1⟩

/--
Two texts whose tokens say the same are read as the same query, or have errors
of the same kind at tokens with the same index, whatever their layout and
spelling is.
-/
theorem Query.agree_of_items {first second : String}
    (items : (Lexer.new first none).items = tokens.map .ok)
    (otherItems : (Lexer.new second none).items = otherTokens.map .ok)
    (agree : List.Forall₂ Token.Agrees tokens otherTokens)
    (maxDepth : Nat) :
    (∃ query, parseWithin ⟨maxDepth, none⟩ first = .ok query ∧
        parseWithin ⟨maxDepth, none⟩ second = .ok query) ∨
      ∃ (error other : QueryError) (index : Nat) (token twin : Token),
        parseWithin ⟨maxDepth, none⟩ first = .error error ∧
          parseWithin ⟨maxDepth, none⟩ second = .error other ∧
          error.heading = other.heading ∧
          tokens[index]? = some token ∧
          otherTokens[index]? = some twin ∧
          error.position = token.position ∧
          other.position = twin.position := by
  obtain ⟨ending, ends, isAll⟩ := TokenStream.ofSource_of_items items
  obtain ⟨otherEnding, otherEnds, isOtherAll⟩ := TokenStream.ofSource_of_items otherItems
  obtain ⟨areTwins, endingsAreTwins⟩ :=
    forall₂_of_concat isAll isOtherAll (areTwins_of_agrees agree)
  have corresponds :
      TokenStream.Corresponds (Token.AreTwins tokens otherTokens)
        (TokenStream.ofSource first none) (TokenStream.ofSource second none) :=
    ⟨Token.AreTwins.agrees, areTwins, .inl ⟨ending, otherEnding, ends, otherEnds, endingsAreTwins⟩⟩
  rcases corresponds.query maxDepth with
    ⟨query, reads, otherReads⟩ | ⟨error, other, fails, otherFails, ⟨isEnding, _⟩ | standAtTwins⟩
  · exact .inl ⟨query, reads, otherReads⟩
  · cases ends.symm.trans isEnding
  · obtain ⟨token, twin, ⟨_, index, isAt, isOtherAt⟩, stands, otherStands⟩ := standAtTwins.stand
    exact
      .inr ⟨error, other, index, token, twin, fails, otherFails, standAtTwins.isSameKind, isAt,
        isOtherAt, stands.position_eq, otherStands.position_eq⟩

/-- The tokens of a small query on one line. -/
def tightTokens : List Token :=
  [⟨.keyword .selectWord, "SELECT", ⟨1, 1⟩⟩, ⟨.name "max" false, "max", ⟨1, 8⟩⟩,
    ⟨.leftParenthesis, "(", ⟨1, 11⟩⟩, ⟨.number (.integer 7), "007", ⟨1, 12⟩⟩,
    ⟨.rightParenthesis, ")", ⟨1, 15⟩⟩, ⟨.keyword .fromWord, "FROM", ⟨1, 17⟩⟩,
    ⟨.name "sale" false, "sale", ⟨1, 22⟩⟩, .endAt ⟨1, 26⟩]

/-- The same tokens with blanks between them, on two lines and with a comment. -/
def looseTokens : List Token :=
  [⟨.keyword .selectWord, "SELECT", ⟨1, 1⟩⟩, ⟨.name "max" false, "max", ⟨1, 8⟩⟩,
    ⟨.leftParenthesis, "(", ⟨1, 12⟩⟩, ⟨.number (.integer 7), "7", ⟨1, 14⟩⟩,
    ⟨.rightParenthesis, ")", ⟨1, 16⟩⟩, ⟨.keyword .fromWord, "FROM", ⟨2, 1⟩⟩,
    ⟨.name "sale" false, "sale", ⟨2, 6⟩⟩, .endAt ⟨2, 17⟩]

theorem looseTokens_agree : List.Forall₂ Token.Agrees tightTokens looseTokens := by
  have agrees {token twin : Token}
      (content : token.content = twin.content)
      (text : token.name? = none ∨ token.text = twin.text) :
      token.Agrees twin := by
    refine ⟨content, fun isName => text.resolve_left fun isNone => ?_⟩
    rw [isNone] at isName
    cases isName
  unfold tightTokens looseTokens
  repeat' apply List.Forall₂.cons
  any_goals exact agrees rfl (by decide)
  exact .nil

theorem Query.agree_of_items_looseTokens :
    (∃ query, parseWithin ⟨64, none⟩ "SELECT max(007) FROM sale" = .ok query ∧
        parseWithin ⟨64, none⟩ "SELECT max ( 7 )\nFROM sale // all" = .ok query) ∨
      ∃ (error other : QueryError) (index : Nat) (token twin : Token),
        parseWithin ⟨64, none⟩ "SELECT max(007) FROM sale" = .error error ∧
          parseWithin ⟨64, none⟩ "SELECT max ( 7 )\nFROM sale // all" = .error other ∧
          error.heading = other.heading ∧
          tightTokens[index]? = some token ∧
          looseTokens[index]? = some twin ∧
          error.position = token.position ∧
          other.position = twin.position := by
  have items : (Lexer.new "SELECT max(007) FROM sale" none).items = tightTokens.map .ok := by
    cbv
  have otherItems :
      (Lexer.new "SELECT max ( 7 )\nFROM sale // all" none).items = looseTokens.map .ok := by
    cbv
  exact agree_of_items items otherItems looseTokens_agree 64

end Layout

/-! ## Every outcome is accounted for -/

/-- Where what a text is read as can come from. -/
inductive Origin where
  /-- All tokens that the lexer gives, up to the end of the query. -/
  | tokens
  /-- The error that the lexer gives. -/
  | lexer
  /-- One of the tokens that the lexer gives before any error. -/
  | token

/-- A token that a lexer gives before any error. -/
def IsGiven (items : List (Except QueryError Token)) (token : Token) : Prop :=
  ∃ (before : List Token) (later : List (Except QueryError Token)),
    items = before.map .ok ++ .ok token :: later

/--
An outcome comes from what a lexer gives.  A query uses up all tokens up to the
end, and there is no error among the items then; an error is the one of the
lexer or stands at a token in front of it.
-/
inductive ComesFrom (items : List (Except QueryError Token)) (maxDepth : Nat) :
    Except QueryError Query → Origin → Prop where
  | tokens {tokens : List Token} {ending : Token} {query : Query}
      (areAll : items = tokens.map .ok ++ [.ok ending])
      (isEnd : ending.content = .endOfInput)
      (phrase : QueryPhrase maxDepth tokens query) :
      ComesFrom items maxDepth (.ok query) .tokens
  | lexer {tokens : List Token} {position : Position} {fault : LexFault}
      (areAll : items = tokens.map .ok ++ [.error (.lex position fault)]) :
      ComesFrom items maxDepth (.error (.lex position fault)) .lexer
  | token {token : Token} {error : QueryError}
      (isGiven : IsGiven items token)
      (stands : error.StandsAt token) :
      ComesFrom items maxDepth (.error error) .token

theorem ComesFrom.unique
    {items : List (Except QueryError Token)} {maxDepth : Nat}
    {outcome : Except QueryError Query} {origin other : Origin}
    (comes : ComesFrom items maxDepth outcome origin)
    (comesToo : ComesFrom items maxDepth outcome other) :
    origin = other := by
  cases comes with
  | tokens areAll isEnd phrase =>
      cases comesToo with
      | tokens => rfl
  | lexer areAll =>
      cases comesToo with
      | lexer => rfl
      | token isGiven stands => exact absurd rfl (stands.isNoLex _ _)
  | token isGiven stands =>
      cases comesToo with
      | lexer areAll => exact absurd rfl (stands.isNoLex _ _)
      | token => rfl

section Accounting

variable {source : String} {limit : Option Nat}

theorem isGiven_of_mem_ofSource {token : Token}
    (isIn : token ∈ (TokenStream.ofSource source limit).tokens) :
    IsGiven (Lexer.new source limit).items token := by
  obtain ⟨before, later, isSplit⟩ := List.append_of_mem isIn
  refine ⟨before, later.map .ok ++ [(TokenStream.ofSource source limit).ending], ?_⟩
  rw [TokenStream.items_eq_ofSource, isSplit, List.map_append, List.map_cons,
    List.append_assoc, List.cons_append]

theorem isGiven_of_ending {ending : Token}
    (ends : (TokenStream.ofSource source limit).ending = .ok ending) :
    IsGiven (Lexer.new source limit).items ending :=
  ⟨_, [], by rw [TokenStream.items_eq_ofSource, ends]⟩

/-- A text corresponds to itself, with the tokens that its lexer gives. -/
theorem corresponds_itself (source : String) (limit : Option Nat) :
    TokenStream.Corresponds
      (fun token twin => token = twin ∧ IsGiven (Lexer.new source limit).items token)
      (TokenStream.ofSource source limit) (TokenStream.ofSource source limit) where
  agrees := fun ⟨isSame, _⟩ => isSame ▸ .refl _
  tokens := List.forall₂_same.mpr fun token isIn => ⟨rfl, isGiven_of_mem_ofSource isIn⟩
  endings := by
    cases ends : (TokenStream.ofSource source limit).ending with
    | ok ending => exact .inl ⟨ending, ending, rfl, rfl, rfl, isGiven_of_ending ends⟩
    | error error => exact .inr ⟨error, rfl, rfl⟩

end Accounting

/--
What a text is read as comes from all of its tokens, from the error of its
lexer or from one of its tokens, and from one of these only.  No reader ever
finds that there is nothing left to read.
-/
theorem Query.parseWithin_accounted (limits : Limits) (source : String) :
    (∃! origin,
        ComesFrom (Lexer.new source limits.maxLength).items limits.maxDepth
          (parseWithin limits source) origin) ∧
      parseWithin limits source ≠ .error .exhausted := by
  suffices comes :
      (∃ origin,
          ComesFrom (Lexer.new source limits.maxLength).items limits.maxDepth
            (parseWithin limits source) origin) ∧
        parseWithin limits source ≠ .error .exhausted by
    obtain ⟨⟨origin, comesFrom⟩, isNotExhausted⟩ := comes
    exact ⟨⟨origin, comesFrom, fun _ comesToo => comesToo.unique comesFrom⟩, isNotExhausted⟩
  have items := TokenStream.items_eq_ofSource source limits.maxLength
  unfold parseWithin
  rcases (corresponds_itself source limits.maxLength).query limits.maxDepth with
    ⟨query, reads, _⟩ | ⟨error, _, fails, _, ⟨ends, _⟩ | standAtTwins⟩
  · obtain ⟨isErrorFree, phrase⟩ := TokenStream.phrase_of_query_ofSource reads
    obtain ⟨ending, ends, isEnd⟩ := isErrorFree.endsWell
    rw [reads]
    rw [ends] at items
    exact ⟨⟨.tokens, .tokens items isEnd phrase⟩, fun isError => nomatch isError⟩
  · obtain ⟨position, fault, rfl⟩ := TokenStream.isLex_of_ofSource ends
    rw [fails]
    rw [ends] at items
    refine ⟨⟨.lexer, .lexer items⟩, fun isExhausted => ?_⟩
    exact QueryError.noConfusion (Except.error.inj isExhausted)
  · obtain ⟨token, _, ⟨_, isGiven⟩, stands, _⟩ := standAtTwins.stand
    rw [fails]
    refine ⟨⟨.token, .token isGiven stands⟩, fun isExhausted => ?_⟩
    exact standAtTwins.isNotExhausted (Except.error.inj isExhausted)

end EventQuery
