import EventQuery.Proofs.Grammar.ClauseReading

/-!
# What the reader of queries gives

The optional clauses one after the other.  A clause that may stand at a place
either stands there, or the clauses after it are read from the same place; both
are one statement about a phrase that may be absent.
-/

namespace EventQuery.Grammar

variable {setting : Setting} {ending : Token} {cursor : Cursor} {before result : Query}

/-! ## One clause at a time -/

/-- The end of the query, or the first token of one of some clauses, is ahead. -/
def ClauseAhead (allowed : List Clause) (cursor : Cursor) : Prop :=
  ∀ ⦃token : Token⦄ ⦃place : Cursor⦄,
    cursor = place.preceded [token] →
      token.content = .endOfInput ∨
        ∃ clause ∈ allowed, token.content = .keyword clause.keyword

theorem ClauseAhead.clauseEnds {allowed : List Clause}
    (ahead : ClauseAhead allowed cursor) :
    ClauseEnds cursor := by
  intro token place equal
  rcases ahead equal with isEnd | ⟨clause, _, isClause⟩
  · exact Or.inl isEnd
  · exact Or.inr ⟨clause, isClause⟩

theorem mem_of_clauseAt? {token : Token} {allowed rest : List Clause} {clause : Clause}
    (found : clauseAt? token allowed = some (clause, rest)) :
    clause ∈ allowed ∧ token.content = .keyword clause.keyword := by
  induction allowed with
  | nil => cases found
  | cons first allowed ih =>
      rw [clauseAt?] at found
      split at found
      · cases found
        exact ⟨List.mem_cons_self, ‹_›⟩
      · obtain ⟨isIn, isClause⟩ := ih found
        exact ⟨List.mem_cons_of_mem _ isIn, isClause⟩

/-- Behind a clause that may stand at a place, the clauses after it are read. -/
theorem optionalClauses_of_clause
    {allowed later : List Clause} {middle : Query} {place behind : Cursor}
    {token : Token} {clause : Clause}
    (found : clauseAt? token allowed = some (clause, later))
    (bodyGives : Gives (clauseBody setting clause before place) middle behind) :
    optionalClauses setting allowed before (place.preceded [token]) =
      optionalClauses setting later middle behind := by
  have isNoEnd : token.content ≠ .endOfInput := by
    rw [(mem_of_clauseAt? found).2]
    exact TokenContent.noConfusion
  have taken :
      Gives
        (take setting (place.preceded [token]) (expecting (expectedAtBoundary allowed))
          fun token => clauseAt? token allowed)
        (clause, later) place :=
    (gives_take_iff setting).mpr ⟨token, rfl, found⟩
  rw [optionalClauses, peek_preceded]
  refine (if_neg isNoEnd).trans ?_
  refine (bind_of_gives taken).trans ?_
  exact bind_of_gives bodyGives

theorem optionalClauses_eq_ok_iff {allowed : List Clause} :
    optionalClauses setting allowed before cursor = .ok result ↔
      ∃ token, peek setting cursor = .ok token ∧
        ((token.content = .endOfInput ∧ result = before) ∨
          (token.content ≠ .endOfInput ∧
            ∃ (clause : Clause) (later : List Clause) (place behind : Cursor)
              (middle : Query),
              cursor = place.preceded [token] ∧
                clauseAt? token allowed = some (clause, later) ∧
                Gives (clauseBody setting clause before place) middle behind ∧
                optionalClauses setting later middle behind = .ok result)) := by
  constructor
  · intro equal
    rw [optionalClauses] at equal
    obtain ⟨token, ahead, equal⟩ := bind_eq_ok_iff.mp equal
    refine ⟨token, ahead, ?_⟩
    by_cases isEnd : token.content = .endOfInput
    · rw [if_pos isEnd] at equal
      exact Or.inl ⟨isEnd, (Except.ok.inj equal).symm⟩
    · rw [if_neg isEnd] at equal
      obtain ⟨⟨clause, later⟩, place, _, taken, equal⟩ := bind_outcome_eq_ok_iff.mp equal
      obtain ⟨middle, behind, _, bodyGives, equal⟩ := bind_outcome_eq_ok_iff.mp equal
      obtain ⟨other, rfl, found⟩ := (gives_take_iff setting).mp taken
      obtain rfl : other = token := Except.ok.inj ahead
      exact
        Or.inr ⟨isEnd, clause, later, place, behind, middle, rfl, found, bodyGives, equal⟩
  · rintro ⟨token, ahead,
      ⟨isEnd, rfl⟩ | ⟨_, clause, later, place, behind, middle, rfl, found, bodyGives, equal⟩⟩
    · rw [optionalClauses, ahead]
      exact if_pos isEnd
    · exact (optionalClauses_of_clause found bodyGives).trans equal

theorem clauseAhead_of_optionalClauses {allowed : List Clause}
    (equal : optionalClauses setting allowed before cursor = .ok result) :
    ClauseAhead allowed cursor := by
  rintro token place rfl
  obtain ⟨other, ahead, cases⟩ := optionalClauses_eq_ok_iff.mp equal
  rw [peek_preceded] at ahead
  cases ahead
  rcases cases with ⟨isEnd, _⟩ | ⟨_, clause, later, _, _, _, _, found, _, _⟩
  · exact Or.inl isEnd
  · exact Or.inr ⟨clause, mem_of_clauseAt? found⟩

/-- After the last clause there is only the end. -/
theorem optionalClauses_nil_iff
    (endsWell : setting.ending = .ok ending)
    (isEnd : ending.content = .endOfInput)
    (isUnended : ∀ token ∈ cursor.tokens, token.content ≠ .endOfInput) :
    optionalClauses setting [] before cursor = .ok result ↔
      cursor.tokens = [] ∧ result = before := by
  rw [optionalClauses_eq_ok_iff]
  rcases cursor.eq_end_or_preceded with atEnd | ⟨token, place, rfl⟩
  · rw [peek_end setting atEnd, endsWell]
    constructor
    · rintro ⟨token, ahead, ⟨_, same⟩ | ⟨isNoEnd, _⟩⟩
      · exact ⟨atEnd, same⟩
      · cases ahead
        exact absurd isEnd isNoEnd
    · rintro ⟨_, same⟩
      exact ⟨ending, rfl, Or.inl ⟨isEnd, same⟩⟩
  · have isNoEnd := isUnended token (by simp)
    constructor
    · rintro ⟨other, ahead, ⟨isEnd', _⟩ | ⟨_, _, _, _, _, _, _, found, _⟩⟩
      · cases ahead
        exact absurd isEnd' isNoEnd
      · cases found
    · rintro ⟨atEnd, _⟩
      simp at atEnd

/-- The first of the allowed clauses stands at a place, or only later ones may. -/
theorem optionalClauses_cons_iff {clause : Clause} {later : List Clause} :
    optionalClauses setting (clause :: later) before cursor = .ok result ↔
      (∃ (token : Token) (place behind : Cursor) (middle : Query),
        cursor = place.preceded [token] ∧ token.content = .keyword clause.keyword ∧
          Gives (clauseBody setting clause before place) middle behind ∧
          optionalClauses setting later middle behind = .ok result) ∨
        ((∀ token place, cursor = Cursor.preceded place [token] →
            token.content ≠ .keyword clause.keyword) ∧
          optionalClauses setting later before cursor = .ok result) := by
  rw [optionalClauses_eq_ok_iff]
  constructor
  · rintro ⟨token, ahead,
      ⟨isEnd, rfl⟩ | ⟨isNoEnd, found, later', place, behind, middle, rfl, starts, gives, equal⟩⟩
    · refine Or.inr ⟨?_, optionalClauses_eq_ok_iff.mpr ⟨token, ahead, Or.inl ⟨isEnd, rfl⟩⟩⟩
      rintro other place rfl isClause
      rw [peek_preceded] at ahead
      cases ahead
      rw [isEnd] at isClause
      cases isClause
    · by_cases isClause : token.content = .keyword clause.keyword
      · rw [clauseAt?, if_pos isClause] at starts
        cases starts
        exact Or.inl ⟨token, place, behind, middle, rfl, isClause, gives, equal⟩
      · rw [clauseAt?, if_neg isClause] at starts
        refine Or.inr ⟨?_, ?_⟩
        · intro other place' same
          obtain ⟨rfl, _⟩ := Cursor.preceded_singleton_inj.mp same
          exact isClause
        · exact
            optionalClauses_eq_ok_iff.mpr
              ⟨token, ahead,
                Or.inr
                  ⟨isNoEnd, found, later', place, behind, middle, rfl, starts, gives,
                    equal⟩⟩
  · rintro (⟨token, place, behind, middle, rfl, isClause, gives, equal⟩ | ⟨isNoClause, equal⟩)
    · refine ⟨token, rfl, Or.inr ⟨?_, ?_⟩⟩
      · rw [isClause]
        exact TokenContent.noConfusion
      · refine ⟨clause, later, place, behind, middle, rfl, ?_, gives, equal⟩
        rw [clauseAt?, if_pos isClause]
    · obtain ⟨token, ahead, cases⟩ := optionalClauses_eq_ok_iff.mp equal
      refine ⟨token, ahead, cases.imp id ?_⟩
      rintro ⟨isNoEnd, found, later', place, behind, middle, rfl, starts, gives, equal⟩
      refine ⟨isNoEnd, found, later', place, behind, middle, rfl, ?_, gives, equal⟩
      rw [clauseAt?, if_neg (isNoClause token place rfl)]
      exact starts

/--
A clause that may stand at a place is an optional phrase there, if its reader
gives what its phrases say wherever nothing more of the clause is ahead.
-/
theorem optionalClauses_cons_iff_phrase
    {α : Type} {clause : Clause} {later : List Clause} {words : List Keyword}
    {Body : List Token → α → Prop} (put : Option α → Query)
    (isAbsent : put none = before)
    (isOnce : ∀ other ∈ later, other.keyword ≠ clause.keyword)
    (bodyGives :
      ∀ {place behind : Cursor} {middle : Query},
        place.depth = cursor.depth → ClauseEnds behind →
          (Gives (clauseBody setting clause before place) middle behind ↔
            ∃ (heading body : List Token) (value : α),
              place = behind.preceded (heading ++ body) ∧
                heading.map Token.content = words.map .keyword ∧
                Body body value ∧ middle = put (some value))) :
    optionalClauses setting (clause :: later) before cursor = .ok result ↔
      ∃ (used : List Token) (value : Option α) (behind : Cursor),
        cursor = behind.preceded used ∧
          OptionalPhrase (clause.keyword :: words) Body used value ∧
          optionalClauses setting later (put value) behind = .ok result := by
  rw [optionalClauses_cons_iff]
  constructor
  · rintro (⟨token, place, behind, middle, rfl, isClause, gives, equal⟩ | ⟨_, equal⟩)
    · have ends := (clauseAhead_of_optionalClauses equal).clauseEnds
      obtain ⟨heading, body, value, rfl, introduces, phrase, rfl⟩ :=
        (@bodyGives place behind middle rfl ends).mp gives
      refine ⟨(token :: heading) ++ body, some value, behind, rfl, .present ?_ phrase, equal⟩
      rw [List.map_cons, List.map_cons, isClause, introduces]
    · exact ⟨[], none, cursor, rfl, .absent, isAbsent ▸ equal⟩
  · rintro ⟨used, value, behind, rfl, phrase, equal⟩
    cases phrase with
    | absent =>
        refine Or.inr ⟨?_, isAbsent ▸ equal⟩
        intro token place same isClause
        rcases clauseAhead_of_optionalClauses equal same with isEnd | ⟨other, isIn, isOther⟩
        · rw [isEnd] at isClause
          cases isClause
        · rw [isOther] at isClause
          exact isOnce other isIn (TokenContent.keyword.inj isClause)
    | @present heading body value introduces phrase =>
        have ends := (clauseAhead_of_optionalClauses equal).clauseEnds
        cases heading with
        | nil => cases introduces
        | cons token heading =>
            obtain ⟨isClause, introduces⟩ := List.cons.inj introduces
            refine
              Or.inl
                ⟨token, behind.preceded (heading ++ body), behind, _, rfl, isClause, ?_,
                  equal⟩
            exact
              (@bodyGives (behind.preceded (heading ++ body)) behind _ rfl ends).mpr
                ⟨heading, body, value, rfl, introduces, phrase, rfl⟩

/-! ## The clauses -/

section Clauses

variable {later : List Clause}

theorem gives_bind_map_iff
    {α β : Type} {bound : Nat} {reader : Outcome α bound} {function : α → β}
    {value : β} {after : Cursor} :
    Gives (reader >>= fun parsed => pure (parsed.map function)) value after ↔
      ∃ inner, Gives reader inner after ∧ value = function inner := by
  constructor
  · intro gives
    obtain ⟨inner, place, _, readerGives, gives⟩ := gives_bind_outcome_iff.mp gives
    obtain ⟨rfl, rfl⟩ := gives_pure_iff.mp gives
    exact ⟨inner, readerGives, rfl⟩
  · rintro ⟨inner, readerGives, rfl⟩
    exact gives_bind_of_gives readerGives (gives_pure_iff.mpr ⟨rfl, rfl⟩)

/-- A body without words of its own in front is read where its phrase stands. -/
theorem gives_map_iff_phrase
    {α : Type} {bound : Nat} {reader : Outcome α bound} {put : α → Query}
    {Body : List Token → α → Prop} {place behind : Cursor} {middle : Query}
    (readerGives :
      ∀ value, Gives reader value behind ↔
        ∃ used, place = behind.preceded used ∧ Body used value) :
    Gives (reader >>= fun parsed => pure (parsed.map put)) middle behind ↔
      ∃ (heading body : List Token) (value : α),
        place = behind.preceded (heading ++ body) ∧
          heading.map Token.content = ([] : List Keyword).map .keyword ∧
          Body body value ∧ middle = put value := by
  rw [gives_bind_map_iff]
  constructor
  · rintro ⟨value, gives, rfl⟩
    obtain ⟨used, equal, phrase⟩ := (readerGives value).mp gives
    exact ⟨[], used, value, equal, rfl, phrase, rfl⟩
  · rintro ⟨heading, body, value, equal, introduces, phrase, rfl⟩
    obtain rfl : heading = [] := List.map_eq_nil_iff.mp introduces
    exact ⟨value, (readerGives value).mpr ⟨body, equal, phrase⟩, rfl⟩

theorem gives_condition_iff
    {place behind : Cursor} {value : Expression}
    (endsWell : setting.ending = .ok ending)
    (isTop : place.depth = 0)
    (ends : ClauseEnds behind) :
    Gives (expression setting .condition place) value behind ↔
      ∃ used, place = behind.preceded used ∧
        ConditionPhrase setting.maxDepth used value := by
  constructor
  · intro gives
    obtain ⟨⟨used, rfl, phrase⟩, isCondition, joins⟩ := reads_of_gives_expression gives
    exact ⟨used, rfl, phrase.mono (Nat.sub_le _ _), isCondition, joins⟩
  · rintro ⟨used, rfl, phrase, isCondition, joins⟩
    rw [Cursor.depth_preceded] at isTop
    exact
      gives_expression_of_phrase endsWell phrase ⟨isCondition, joins⟩
        (by rw [isTop]; exact Nat.le_refl _) ends.itemEnds.bindsBelow

theorem gives_nameList_iff
    {expected : Expectation} {place behind : Cursor} {names : List String}
    (endsWell : setting.ending = .ok ending)
    (ends : ClauseEnds behind) :
    Gives (nameList setting expected place) names behind ↔
      ∃ used, place = behind.preceded used ∧ Separated NamePhrase used names := by
  constructor
  · exact separated_of_gives_commaSeparated (fun _ => gives_name_iff.mp) rfl
  · rintro ⟨used, rfl, separated⟩
    exact
      gives_commaSeparated_of_separated endsWell
        (fun _ _ phrase => gives_name_iff.mpr ⟨_, rfl, phrase⟩) separated rfl ends

theorem gives_selectList_iff
    {place behind : Cursor} {items : List SelectItem}
    (endsWell : setting.ending = .ok ending)
    (isTop : place.depth = 0)
    (ends : ClauseEnds behind) :
    Gives (selectList setting place) items behind ↔
      ∃ used, place = behind.preceded used ∧
        Separated (ColumnPhrase setting.maxDepth) used items := by
  constructor
  · refine separated_of_gives_commaSeparated (fun isTop' itemGives => ?_) isTop
    obtain ⟨used, rfl, column⟩ := columnPhrase_of_gives_selectItem itemGives
    rw [Cursor.depth_preceded] at isTop'
    rw [isTop'] at column
    exact ⟨used, rfl, column⟩
  · rintro ⟨used, rfl, separated⟩
    refine
      gives_commaSeparated_of_separated endsWell (fun isTop' ends' column => ?_) separated
        isTop ends
    exact
      gives_selectItem_of_columnPhrase endsWell column
        (by rw [isTop']; exact Nat.le_refl _) ends'

/-- The words in front of a point in time that is compared with. -/
theorem gives_compareWith_iff
    {place behind : Cursor} {middle : Query} :
    Gives (clauseBody setting .compareWith before place) middle behind ↔
      ∃ (heading body : List Token) (value : TimeSpec),
        place = behind.preceded (heading ++ body) ∧
          heading.map Token.content = [Keyword.withWord].map .keyword ∧
          TimePhrase body value ∧ middle = { before with compareWith := some value } := by
  simp only [clauseBody, takeKeyword]
  constructor
  · intro gives
    obtain ⟨word, next, _, rfl, isWith, gives⟩ :=
      (gives_bind_take_exactly_iff setting).mp gives
    obtain ⟨value, last, _, timeGives, gives⟩ := gives_bind_outcome_iff.mp gives
    obtain ⟨rfl, rfl⟩ := gives_pure_iff.mp (gives_before_iff.mp gives)
    obtain ⟨used, rfl, phrase⟩ := gives_timeSpec_iff.mp timeGives
    exact ⟨[word], used, value, rfl, by rw [List.map_singleton, isWith]; rfl, phrase, rfl⟩
  · rintro ⟨heading, body, value, rfl, introduces, phrase, rfl⟩
    obtain ⟨word, rfl, isWith⟩ := List.map_eq_singleton_iff.mp introduces
    have timeGives :
        Gives (timeSpec setting .compareWith (behind.preceded body)) value behind :=
      gives_timeSpec_iff.mpr ⟨body, rfl, phrase⟩
    rw [Cursor.preceded_append]
    refine gives_bind_take_of_accepts setting (exactly_of_content isWith) ?_
    refine gives_bind_of_gives timeGives ?_
    exact gives_before_iff.mpr (gives_pure_iff.mpr ⟨rfl, rfl⟩)

theorem optionalClauses_condition_iff
    (endsWell : setting.ending = .ok ending)
    (isTop : cursor.depth = 0)
    (isAbsent : before.condition = none)
    (isOnce : ∀ other ∈ later, other.keyword ≠ .whereWord) :
    optionalClauses setting (.condition :: later) before cursor = .ok result ↔
      ∃ (used : List Token) (value : Option Expression) (behind : Cursor),
        cursor = behind.preceded used ∧
          OptionalPhrase [.whereWord] (ConditionPhrase setting.maxDepth) used value ∧
          optionalClauses setting later { before with condition := value } behind =
            .ok result := by
  refine
    optionalClauses_cons_iff_phrase (fun value => { before with condition := value })
      (by rw [← isAbsent]) isOnce fun sameDepth ends => ?_
  exact
    gives_map_iff_phrase fun _ =>
      gives_condition_iff endsWell (sameDepth.trans isTop) ends

theorem optionalClauses_facet_iff
    (endsWell : setting.ending = .ok ending)
    (isAbsent : before.facet = none)
    (isOnce : ∀ other ∈ later, other.keyword ≠ .facetWord) :
    optionalClauses setting (.facet :: later) before cursor = .ok result ↔
      ∃ (used : List Token) (value : Option (List String)) (behind : Cursor),
        cursor = behind.preceded used ∧
          OptionalPhrase [.facetWord] (Separated NamePhrase) used value ∧
          optionalClauses setting later { before with facet := value } behind =
            .ok result :=
  optionalClauses_cons_iff_phrase (fun value => { before with facet := value })
    (by rw [← isAbsent]) isOnce fun _ ends =>
      gives_map_iff_phrase fun _ => gives_nameList_iff endsWell ends

theorem optionalClauses_limit_iff
    (isAbsent : before.limit = none)
    (isOnce : ∀ other ∈ later, other.keyword ≠ .limitWord) :
    optionalClauses setting (.limit :: later) before cursor = .ok result ↔
      ∃ (used : List Token) (value : Option UInt64) (behind : Cursor),
        cursor = behind.preceded used ∧
          OptionalPhrase [.limitWord] AmountPhrase used value ∧
          optionalClauses setting later { before with limit := value } behind =
            .ok result :=
  optionalClauses_cons_iff_phrase (fun value => { before with limit := value })
    (by rw [← isAbsent]) isOnce fun _ _ =>
      gives_map_iff_phrase fun _ => gives_positiveInteger_iff

theorem optionalClauses_since_iff
    (isAbsent : before.since = none)
    (isOnce : ∀ other ∈ later, other.keyword ≠ .sinceWord) :
    optionalClauses setting (.since :: later) before cursor = .ok result ↔
      ∃ (used : List Token) (value : Option TimeSpec) (behind : Cursor),
        cursor = behind.preceded used ∧
          OptionalPhrase [.sinceWord] TimePhrase used value ∧
          optionalClauses setting later { before with since := value } behind =
            .ok result :=
  optionalClauses_cons_iff_phrase (fun value => { before with since := value })
    (by rw [← isAbsent]) isOnce fun _ _ =>
      gives_map_iff_phrase fun _ => gives_timeSpec_iff

theorem optionalClauses_upTo_iff
    (isAbsent : before.upTo = none)
    (isOnce : ∀ other ∈ later, other.keyword ≠ .untilWord) :
    optionalClauses setting (.upTo :: later) before cursor = .ok result ↔
      ∃ (used : List Token) (value : Option TimeSpec) (behind : Cursor),
        cursor = behind.preceded used ∧
          OptionalPhrase [.untilWord] TimePhrase used value ∧
          optionalClauses setting later { before with upTo := value } behind =
            .ok result :=
  optionalClauses_cons_iff_phrase (fun value => { before with upTo := value })
    (by rw [← isAbsent]) isOnce fun _ _ =>
      gives_map_iff_phrase fun _ => gives_timeSpec_iff

theorem optionalClauses_compareWith_iff
    (isAbsent : before.compareWith = none)
    (isOnce : ∀ other ∈ later, other.keyword ≠ .compareWord) :
    optionalClauses setting (.compareWith :: later) before cursor = .ok result ↔
      ∃ (used : List Token) (value : Option TimeSpec) (behind : Cursor),
        cursor = behind.preceded used ∧
          OptionalPhrase [.compareWord, .withWord] TimePhrase used value ∧
          optionalClauses setting later { before with compareWith := value } behind =
            .ok result :=
  optionalClauses_cons_iff_phrase (fun value => { before with compareWith := value })
    (by rw [← isAbsent]) isOnce fun _ _ => gives_compareWith_iff

theorem optionalClauses_timeseries_iff
    (isAbsent : before.timeseries = none)
    (isOnce : ∀ other ∈ later, other.keyword ≠ .timeseriesWord) :
    optionalClauses setting (.timeseries :: later) before cursor = .ok result ↔
      ∃ (used : List Token) (value : Option Bucketing) (behind : Cursor),
        cursor = behind.preceded used ∧
          OptionalPhrase [.timeseriesWord] BucketPhrase used value ∧
          optionalClauses setting later { before with timeseries := value } behind =
            .ok result :=
  optionalClauses_cons_iff_phrase (fun value => { before with timeseries := value })
    (by rw [← isAbsent]) isOnce fun _ _ =>
      gives_map_iff_phrase fun _ => gives_bucketing_iff

end Clauses

end EventQuery.Grammar
