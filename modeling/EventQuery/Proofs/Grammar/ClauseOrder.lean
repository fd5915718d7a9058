import EventQuery.Proofs.Grammar.Acceptance

/-!
# The order of clauses

Reading comes to a boundary behind the sources and behind each clause after
them.  Which clauses stand in front of a boundary is a strictly increasing list
wherever a text is read as a query, and the list at the end of the text is the
list of the clauses of that query.  At any boundary that reading gets to, a
token that starts no later clause is refused: `clauses_inOrder`.
-/

namespace EventQuery

/-! ## Ranks -/

namespace Clause

/-- How many clauses stand in front of a clause in a query that has them all. -/
def rank : Clause → Nat
  | select => 0
  | source => 1
  | condition => 2
  | facet => 3
  | limit => 4
  | since => 5
  | upTo => 6
  | compareWith => 7
  | timeseries => 8

/-- Whether one clause stands in front of another in a query that has both. -/
def Precedes (first second : Clause) : Prop :=
  first.rank < second.rank

instance : DecidableRel Precedes :=
  fun first second => inferInstanceAs (Decidable (first.rank < second.rank))

instance : Std.Irrefl Precedes :=
  ⟨fun clause => Nat.lt_irrefl clause.rank⟩

instance : Std.Antisymm Precedes :=
  ⟨fun _ _ isBefore isAfter => absurd isAfter (Nat.lt_asymm isBefore)⟩

theorem Precedes.trans {first second third : Clause}
    (isBefore : first.Precedes second)
    (isBeforeToo : second.Precedes third) :
    first.Precedes third :=
  Nat.lt_trans isBefore isBeforeToo

theorem keyword_injective : Function.Injective keyword := by
  intro first second isSame
  cases first <;> cases second <;> first | rfl | cases isSame

/-- The optional clauses that may follow a clause, in their order. -/
def later (last : Clause) : List Clause :=
  optional.filter (last.Precedes ·)

theorem pairwise_optional : optional.Pairwise Precedes := by
  decide

theorem pairwise_later (last : Clause) : last.later.Pairwise Precedes :=
  pairwise_optional.filter _

theorem mem_later_iff {last clause : Clause} :
    clause ∈ last.later ↔ clause ∈ optional ∧ last.Precedes clause := by
  simp [later]

/-- What may follow a later clause is what may follow both clauses. -/
theorem filter_later {last clause : Clause} (isLater : last.Precedes clause) :
    last.later.filter (clause.Precedes ·) = clause.later := by
  unfold later
  rw [List.filter_filter]
  refine List.filter_congr fun other _ => ?_
  by_cases isAfter : clause.Precedes other
  · simp [isAfter, isLater.trans isAfter]
  · simp [isAfter]

/-- In a list in order, a clause that the last one precedes is preceded by all. -/
theorem precedes_of_getLast? {clauses : List Clause} {last clause other : Clause}
    (isOrdered : clauses.Pairwise Precedes)
    (isLast : clauses.getLast? = some last)
    (isLater : last.Precedes clause)
    (isIn : other ∈ clauses) :
    other.Precedes clause := by
  obtain ⟨front, rfl⟩ := List.getLast?_eq_some_iff.mp isLast
  rcases List.mem_append.mp isIn with isInFront | isLastToo
  · have isBefore :=
      (List.pairwise_append.mp isOrdered).2.2 other isInFront last List.mem_cons_self
    exact isBefore.trans isLater
  · rw [List.mem_singleton.mp isLastToo]
    exact isLater

theorem pairwise_concat_iff {clauses : List Clause} {last clause : Clause}
    (isLast : clauses.getLast? = some last) :
    (clauses ++ [clause]).Pairwise Precedes ↔
      clauses.Pairwise Precedes ∧ last.Precedes clause := by
  rw [List.pairwise_append]
  constructor
  · rintro ⟨isOrdered, _, areBefore⟩
    exact ⟨isOrdered, areBefore last (List.mem_of_getLast? isLast) clause List.mem_cons_self⟩
  · rintro ⟨isOrdered, isLater⟩
    refine ⟨isOrdered, List.pairwise_singleton _ _, fun other isIn next isNext => ?_⟩
    rw [List.mem_singleton.mp isNext]
    exact precedes_of_getLast? isOrdered isLast isLater isIn

end Clause

/-- The clauses of a query are in order. -/
theorem Query.pairwise_clauses (query : Query) : query.clauses.Pairwise Clause.Precedes := by
  have isOrdered :
      ([Clause.select, Clause.source] ++ Clause.optional).Pairwise Clause.Precedes := by
    decide
  refine isOrdered.sublist ?_
  exact List.Sublist.append (List.Sublist.refl _) List.filter_sublist

theorem Query.mem_clauses_iff {query : Query} {clause : Clause} :
    clause ∈ query.clauses ↔ query.has clause = true := by
  cases clause <;> simp [clauses, Clause.optional, has]

namespace Grammar

variable {setting : Setting} {start : Cursor}

/-! ## Clauses at a place -/

/-- Of some clauses in order, the ones left after a clause are the ones that it precedes. -/
theorem clauseAt?_of_mem {token : Token} {allowed : List Clause} {clause : Clause}
    (isOrdered : allowed.Pairwise Clause.Precedes)
    (isIn : clause ∈ allowed)
    (isClause : token.content = .keyword clause.keyword) :
    clauseAt? token allowed = some (clause, allowed.filter (clause.Precedes ·)) := by
  induction allowed with
  | nil => cases isIn
  | cons first rest ih =>
      obtain ⟨precedesRest, isRestOrdered⟩ := List.pairwise_cons.mp isOrdered
      rw [clauseAt?]
      rcases List.mem_cons.mp isIn with rfl | isInRest
      · rw [if_pos isClause, List.filter_cons_of_neg (by simp [Clause.Precedes])]
        have areAfter : ∀ other ∈ rest, decide (clause.Precedes other) = true :=
          fun other isOther => decide_eq_true (precedesRest other isOther)
        rw [List.filter_eq_self.mpr areAfter]
      · have isBefore := precedesRest clause isInRest
        have isNoFirst : token.content ≠ .keyword first.keyword := by
          rw [isClause]
          intro isSame
          have isFirst := Clause.keyword_injective (TokenContent.keyword.inj isSame)
          exact absurd (isFirst ▸ isBefore) (Nat.lt_irrefl _)
        have isNotAfter : ¬ clause.Precedes first := Nat.lt_asymm isBefore
        rw [if_neg isNoFirst, ih isRestOrdered isInRest, List.filter_cons_of_neg (by simpa)]

theorem clauseAt?_later {token : Token} {last clause : Clause}
    (isIn : clause ∈ last.later)
    (isClause : token.content = .keyword clause.keyword) :
    clauseAt? token last.later = some (clause, clause.later) := by
  rw [clauseAt?_of_mem (Clause.pairwise_later last) isIn isClause,
    Clause.filter_later (Clause.mem_later_iff.mp isIn).2]

theorem clauseAt?_eq_none {token : Token} {allowed : List Clause}
    (isNone : ∀ clause ∈ allowed, token.content ≠ .keyword clause.keyword) :
    clauseAt? token allowed = none := by
  cases found : clauseAt? token allowed with
  | none => rfl
  | some pair =>
      obtain ⟨isIn, isClause⟩ := mem_of_clauseAt? found
      exact absurd isClause (isNone _ isIn)

/-! ## What is read at a place -/

/-- A token that neither ends the query nor starts a clause that may follow is refused. -/
theorem optionalClauses_of_unexpected
    {allowed : List Clause} {before : Query} {cursor : Cursor} {token : Token}
    (ahead : peek setting cursor = .ok token)
    (isNoEnd : token.content ≠ .endOfInput)
    (isNone : clauseAt? token allowed = none) :
    optionalClauses setting allowed before cursor =
      .error (.unexpected token (expectedAtBoundary allowed)) := by
  have declines : Declines setting cursor fun token => clauseAt? token allowed := by
    rcases cursor.eq_end_or_preceded with atEnd | ⟨other, place, rfl⟩
    · rw [peek_end setting atEnd] at ahead
      exact declines_end setting ahead atEnd
    · obtain rfl : other = token := Except.ok.inj ahead
      exact (declines_preceded_iff setting).mpr isNone
  have refused :
      take setting cursor (expecting (expectedAtBoundary allowed))
          (fun token => clauseAt? token allowed) =
        .error (.unexpected token (expectedAtBoundary allowed)) := by
    rw [take, declines]
    show (peek setting cursor >>= fun token => throw (expecting _ token)) = _
    rw [ahead]
    rfl
  rw [optionalClauses, ahead]
  refine (if_neg isNoEnd).trans ?_
  rw [refused]
  rfl

/-- A clause adds itself to the clauses of a query, and no other. -/
theorem has_of_gives_clauseBody
    {clause : Clause} {before middle : Query} {place behind : Cursor}
    (body : Gives (clauseBody setting clause before place) middle behind)
    (other : Clause) :
    middle.has other = true ↔ before.has other = true ∨ other = clause := by
  cases clause with
  | compareWith =>
      obtain ⟨_, _, value, _, _, _, rfl⟩ := gives_compareWith_iff.mp body
      cases other <;> simp [Query.has]
  | _ =>
      obtain ⟨value, _, rfl⟩ := gives_bind_map_iff.mp body
      cases other <;> simp [Query.has]

/-! ## Boundaries -/

/--
The places where a clause has been read and another one may follow: behind the
sources, and behind the body of every optional clause that stands at such a
place, whether it may stand there or not.  With the place go the clauses in
front of it and the query that they make.
-/
inductive Boundary (setting : Setting) (start : Cursor) :
    List Clause → Query → Cursor → Prop where
  | sources {selectWord fromWord : Token} {columnsPlace sourcesPlace sourcesEnd : Cursor}
      {items : List SelectItem} {names : List String}
      (isStart : start = columnsPlace.preceded [selectWord])
      (isSelect : selectWord.content = .keyword .selectWord)
      (columns :
        Gives (selectList setting columnsPlace) items (sourcesPlace.preceded [fromWord]))
      (isFrom : fromWord.content = .keyword .fromWord)
      (sources : Gives (nameList setting .eventType sourcesPlace) names sourcesEnd) :
      Boundary setting start [.select, .source] { select := items, sources := names }
        sourcesEnd
  | clause {clauses : List Clause} {before middle : Query} {place behind : Cursor}
      {token : Token} {clause : Clause}
      (boundary : Boundary setting start clauses before (place.preceded [token]))
      (isOptional : clause ∈ Clause.optional)
      (isClause : token.content = .keyword clause.keyword)
      (body : Gives (clauseBody setting clause before place) middle behind) :
      Boundary setting start (clauses ++ [clause]) middle behind

namespace Boundary

variable {clauses : List Clause} {before : Query} {place : Cursor}

theorem exists_last (boundary : Boundary setting start clauses before place) :
    ∃ last, clauses.getLast? = some last := by
  cases boundary with
  | sources => exact ⟨.source, rfl⟩
  | clause => exact ⟨_, List.getLast?_concat⟩

/-- As long as clauses are in order, reading goes on at a boundary with the later ones. -/
theorem query_eq (boundary : Boundary setting start clauses before place)
    (isOrdered : clauses.Pairwise Clause.Precedes)
    {last : Clause}
    (isLast : clauses.getLast? = some last) :
    query setting start = optionalClauses setting last.later before place := by
  induction boundary generalizing last with
  | @sources selectWord fromWord columnsPlace sourcesPlace sourcesEnd items names isStart
      isSelect columns isFrom sources =>
      obtain rfl : Clause.source = last := Option.some.inj isLast
      subst isStart
      exact query_of_gives isSelect columns isFrom sources
  | @clause clauses before middle place behind token clause boundary isOptional isClause body
      ih =>
      obtain rfl : clause = last := by
        rw [List.getLast?_concat] at isLast
        exact Option.some.inj isLast
      obtain ⟨previous, isPrevious⟩ := boundary.exists_last
      obtain ⟨areOrdered, isLater⟩ := (Clause.pairwise_concat_iff isPrevious).mp isOrdered
      have isIn : clause ∈ previous.later := Clause.mem_later_iff.mpr ⟨isOptional, isLater⟩
      rw [ih areOrdered isPrevious]
      exact optionalClauses_of_clause (clauseAt?_later isIn isClause) body

/-- A query has exactly the clauses that stand in front of its boundary. -/
theorem has_iff (boundary : Boundary setting start clauses before place) (clause : Clause) :
    before.has clause = true ↔ clause ∈ clauses := by
  induction boundary with
  | sources => cases clause <;> simp [Query.has]
  | @clause clauses before middle place behind token other boundary isOptional isClause body
      ih =>
      rw [has_of_gives_clauseBody body, List.mem_append, List.mem_singleton, ih]

/-- Where a query is read in the end, the clauses in front of every boundary are in order. -/
theorem pairwise_of_query_eq_ok (boundary : Boundary setting start clauses before place)
    {result : Query}
    (reads : query setting start = .ok result) :
    clauses.Pairwise Clause.Precedes := by
  induction boundary with
  | sources => decide
  | @clause clauses before middle place behind token clause boundary isOptional isClause body
      ih =>
      obtain ⟨previous, isPrevious⟩ := boundary.exists_last
      refine (Clause.pairwise_concat_iff isPrevious).mpr ⟨ih, ?_⟩
      have goesOn := (boundary.query_eq ih isPrevious).symm.trans reads
      rcases clauseAhead_of_optionalClauses goesOn rfl with isEnd | ⟨other, isIn, isOther⟩
      · rw [isClause] at isEnd
        cases isEnd
      · rw [isClause] at isOther
        obtain rfl := Clause.keyword_injective (TokenContent.keyword.inj isOther)
        exact (Clause.mem_later_iff.mp isIn).2

/-- At the end of a text, the clauses in front of a boundary are those of its query. -/
theorem clauses_eq (boundary : Boundary setting start clauses before place)
    (isOrdered : clauses.Pairwise Clause.Precedes) :
    before.clauses = clauses := by
  refine List.Pairwise.eq_of_mem_iff before.pairwise_clauses isOrdered fun clause => ?_
  exact Query.mem_clauses_iff.trans (boundary.has_iff clause)

end Boundary

/-- The optional clauses are read from boundary to boundary, up to the end. -/
theorem exists_boundary_of_optionalClauses
    {clauses : List Clause} {last : Clause} {before result : Query} {place : Cursor}
    (boundary : Boundary setting start clauses before place)
    (reads : optionalClauses setting last.later before place = .ok result) :
    ∃ (all : List Clause) (behind : Cursor) (token : Token),
      clauses <+: all ∧
        Boundary setting start all result behind ∧
        peek setting behind = .ok token ∧
        token.content = .endOfInput := by
  obtain ⟨token, ahead, ⟨isEnd, rfl⟩ |
    ⟨_, clause, rest, next, behind, middle, rfl, found, body, readsOn⟩⟩ :=
    optionalClauses_eq_ok_iff.mp reads
  · exact ⟨clauses, place, token, List.prefix_refl _, boundary, ahead, isEnd⟩
  · obtain ⟨isIn, isClause⟩ := mem_of_clauseAt? found
    have boundaryBehind :=
      boundary.clause (Clause.mem_later_iff.mp isIn).1 isClause body
    obtain rfl : clause.later = rest := by
      rw [clauseAt?_later isIn isClause] at found
      exact (Prod.mk.inj (Option.some.inj found)).2
    have isShorter : behind.size < (next.preceded [token]).size :=
      Nat.lt_trans body.size_lt (next.size_lt_size_preceded_singleton token)
    obtain ⟨all, last, ending, isPrefix, rest⟩ :=
      exists_boundary_of_optionalClauses boundaryBehind readsOn
    exact ⟨all, last, ending, (List.prefix_append _ _).trans isPrefix, rest⟩
termination_by place.size

/-- A query that is read has a boundary at the end of its text. -/
theorem exists_boundary_of_query {result : Query}
    (reads : query setting start = .ok result) :
    ∃ (clauses : List Clause) (behind : Cursor) (token : Token),
      Boundary setting start clauses result behind ∧
        peek setting behind = .ok token ∧
        token.content = .endOfInput := by
  obtain ⟨_, _, _, _, _, _, _, isStart, isSelect, columns, isFrom, sources, readsOn⟩ :=
    query_eq_ok_iff.mp reads
  have boundary := Boundary.sources isStart isSelect columns isFrom sources
  have allowed : Clause.optional = Clause.source.later := rfl
  rw [allowed] at readsOn
  obtain ⟨clauses, behind, token, _, isAtEnd⟩ :=
    exists_boundary_of_optionalClauses boundary readsOn
  exact ⟨clauses, behind, token, isAtEnd⟩

end Grammar

/-! ## Texts -/

namespace Query

open Grammar

/--
Reading a text comes to a boundary: the clauses in front of it, the query that
they make, and the token that is ahead.
-/
def ComesTo (limits : Limits) (source : String)
    (clauses : List Clause) (before : Query) (token : Token) : Prop :=
  let stream := TokenStream.ofSource source limits.maxLength
  let setting : Setting := ⟨stream.ending, limits.maxDepth⟩
  ∃ place,
    Boundary setting ⟨stream.tokens, 0⟩ clauses before place ∧ peek setting place = .ok token

/--
The clauses of a text that is read as a query are the ones in front of its end,
and their order is strict at every boundary.  A text that comes to a boundary
in order is refused if no later clause and not the end is ahead there, and the
error names all later clauses.
-/
theorem clauses_inOrder (limits : Limits) (source : String) :
    (∀ query, parseWithin limits source = .ok query →
        (∃ clauses token,
          ComesTo limits source clauses query token ∧
            token.content = .endOfInput ∧
            query.clauses = clauses ∧
            ∀ clause, query.has clause = true ↔ clause ∈ clauses) ∧
          ∀ clauses before token,
            ComesTo limits source clauses before token →
              clauses.Pairwise Clause.Precedes ∧ clauses <+: query.clauses) ∧
      ∀ clauses last before token,
        ComesTo limits source clauses before token →
          clauses.Pairwise Clause.Precedes →
          clauses.getLast? = some last →
          token.content ≠ .endOfInput →
          (∀ clause ∈ last.later, token.content ≠ .keyword clause.keyword) →
            ∃ expected,
              parseWithin limits source = .error (.unexpected token expected) ∧
                expected.map Expectation.text =
                  last.later.map Clause.words ++ ["end of input"] := by
  refine ⟨fun query reads => ⟨?_, ?_⟩, ?_⟩
  · obtain ⟨clauses, place, token, boundary, ahead, isEnd⟩ := exists_boundary_of_query reads
    have isOrdered := boundary.pairwise_of_query_eq_ok reads
    exact
      ⟨clauses, token, ⟨place, boundary, ahead⟩, isEnd, boundary.clauses_eq isOrdered,
        boundary.has_iff⟩
  · rintro clauses before token ⟨place, boundary, _⟩
    have isOrdered := boundary.pairwise_of_query_eq_ok reads
    obtain ⟨last, isLast⟩ := boundary.exists_last
    have readsOn := (boundary.query_eq isOrdered isLast).symm.trans reads
    obtain ⟨all, behind, _, isPrefix, boundaryAtEnd, _⟩ :=
      exists_boundary_of_optionalClauses boundary readsOn
    have isAll := boundaryAtEnd.clauses_eq (boundaryAtEnd.pairwise_of_query_eq_ok reads)
    exact ⟨isOrdered, isAll ▸ isPrefix⟩
  · rintro clauses last before token ⟨place, boundary, ahead⟩ isOrdered isLast isNoEnd isNone
    refine ⟨expectedAtBoundary last.later, ?_, ?_⟩
    · have readsOn := boundary.query_eq isOrdered isLast
      exact
        readsOn.trans (optionalClauses_of_unexpected ahead isNoEnd (clauseAt?_eq_none isNone))
    · rw [expectedAtBoundary, List.map_append, List.map_map]
      rfl

/-- A text with two clauses in the wrong order. -/
def swappedText : String :=
  "SELECT max(x) FROM sale LIMIT 5 WHERE x"

/-- The tokens of the text. -/
def swappedTokens : List Token :=
  [⟨.keyword .selectWord, "SELECT", ⟨1, 1⟩⟩, ⟨.name "max" false, "max", ⟨1, 8⟩⟩,
    ⟨.leftParenthesis, "(", ⟨1, 11⟩⟩, ⟨.name "x" false, "x", ⟨1, 12⟩⟩,
    ⟨.rightParenthesis, ")", ⟨1, 13⟩⟩, ⟨.keyword .fromWord, "FROM", ⟨1, 15⟩⟩,
    ⟨.name "sale" false, "sale", ⟨1, 20⟩⟩, ⟨.keyword .limitWord, "LIMIT", ⟨1, 25⟩⟩,
    ⟨.number (.integer 5), "5", ⟨1, 31⟩⟩, ⟨.keyword .whereWord, "WHERE", ⟨1, 33⟩⟩,
    ⟨.name "x" false, "x", ⟨1, 39⟩⟩]

/-- What the text says in front of the second of its clauses. -/
def swappedQuery : Query where
  select := [⟨"max", [.field "x"], none⟩]
  sources := ["sale"]
  limit := some 5

/-- The text comes to its second clause in order, and is refused there. -/
theorem clauses_inOrder_swapped :
    ComesTo {} swappedText [.select, .source, .limit] swappedQuery
        ⟨.keyword .whereWord, "WHERE", ⟨1, 33⟩⟩ ∧
      ∃ expected,
        parse swappedText =
            .error (.unexpected ⟨.keyword .whereWord, "WHERE", ⟨1, 33⟩⟩ expected) ∧
          expected.map Expectation.text =
            ["SINCE", "UNTIL", "COMPARE WITH", "TIMESERIES", "end of input"] := by
  let setting : Setting := ⟨.ok (.endAt ⟨1, 40⟩), 64⟩
  let place (passed : Nat) : Cursor := ⟨swappedTokens.drop passed, 0⟩
  have stream : TokenStream.ofSource swappedText none = ⟨swappedTokens, setting.ending⟩ := by
    cbv
  have columns : Gives (selectList setting (place 1)) swappedQuery.select (place 5) :=
    ⟨by decide, by cbv⟩
  have names :
      Gives (nameList setting .eventType (place 6)) swappedQuery.sources (place 7) :=
    ⟨by decide, by cbv⟩
  have limit :
      Gives (clauseBody setting .limit { swappedQuery with limit := none } (place 8))
        swappedQuery (place 9) :=
    ⟨by decide, by cbv⟩
  have boundary :
      Boundary setting (place 0) [.select, .source] { swappedQuery with limit := none }
        (place 7) :=
    @Boundary.sources _ _ _ _ (place 1) (place 6) _ _ _ rfl rfl columns rfl names
  have comesTo :
      ComesTo {} swappedText [.select, .source, .limit] swappedQuery
        ⟨.keyword .whereWord, "WHERE", ⟨1, 33⟩⟩ := by
    unfold ComesTo
    rw [stream]
    refine ⟨place 9, ?_, rfl⟩
    exact @Boundary.clause _ _ _ _ _ (place 8) _ _ .limit boundary (by decide) rfl limit
  refine ⟨comesTo, (clauses_inOrder {} _).2 _ .limit _ _ comesTo (by decide) rfl ?_ (by decide)⟩
  exact TokenContent.noConfusion

end Query

end EventQuery
