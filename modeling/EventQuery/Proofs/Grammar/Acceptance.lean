import Mathlib
import EventQuery.Proofs.Grammar.QueryReading
import EventQuery.Proofs.Token.Stream

/-!
# The grammar is what the reader accepts

Reading a stream of tokens and deriving its tokens are the same, at every bound
on nesting.  Since a reader gives one result at most, a run of tokens is at
most one query, so the grammar is unambiguous.
-/

namespace EventQuery.Grammar

variable {setting : Setting} {ending : Token}

/-- Behind its columns and sources, a query goes on with its optional clauses. -/
theorem query_of_gives
    {selectWord fromWord : Token} {columnsPlace sourcesPlace sourcesEnd : Cursor}
    {items : List SelectItem} {names : List String}
    (isSelect : selectWord.content = .keyword .selectWord)
    (itemsGive :
      Gives (selectList setting columnsPlace) items (sourcesPlace.preceded [fromWord]))
    (isFrom : fromWord.content = .keyword .fromWord)
    (namesGive : Gives (nameList setting .eventType sourcesPlace) names sourcesEnd) :
    query setting (columnsPlace.preceded [selectWord]) =
      optionalClauses setting Clause.optional { select := items, sources := names }
        sourcesEnd := by
  have selectTaken :
      Gives (takeKeyword setting .selectWord (columnsPlace.preceded [selectWord]))
        selectWord columnsPlace :=
    (gives_take_exactly_iff setting).mpr ⟨rfl, isSelect⟩
  have columnsGive :
      Gives (clauseBody setting .select { select := [], sources := [] } columnsPlace)
        { select := items, sources := [] } (sourcesPlace.preceded [fromWord]) :=
    gives_bind_map_iff.mpr ⟨items, itemsGive, rfl⟩
  have fromTaken :
      Gives (takeKeyword setting .fromWord (sourcesPlace.preceded [fromWord]))
        fromWord sourcesPlace :=
    (gives_take_exactly_iff setting).mpr ⟨rfl, isFrom⟩
  have sourcesGive :
      Gives (clauseBody setting .source { select := items, sources := [] } sourcesPlace)
        { select := items, sources := names } sourcesEnd :=
    gives_bind_map_iff.mpr ⟨names, namesGive, rfl⟩
  refine (bind_of_gives selectTaken).trans ?_
  refine (bind_of_gives columnsGive).trans ?_
  refine (bind_of_gives fromTaken).trans ?_
  exact bind_of_gives sourcesGive

/-- The columns and sources in front of the optional clauses. -/
theorem query_eq_ok_iff {cursor : Cursor} {result : Query} :
    query setting cursor = .ok result ↔
      ∃ (selectWord fromWord : Token) (columnsPlace sourcesPlace sourcesEnd : Cursor)
        (items : List SelectItem) (names : List String),
        cursor = columnsPlace.preceded [selectWord] ∧
          selectWord.content = .keyword .selectWord ∧
          Gives (selectList setting columnsPlace) items
            (sourcesPlace.preceded [fromWord]) ∧
          fromWord.content = .keyword .fromWord ∧
          Gives (nameList setting .eventType sourcesPlace) names sourcesEnd ∧
          optionalClauses setting Clause.optional { select := items, sources := names }
              sourcesEnd =
            .ok result := by
  constructor
  · intro equal
    unfold query takeKeyword at equal
    obtain ⟨selectWord, columnsPlace, _, taken, equal⟩ := bind_outcome_eq_ok_iff.mp equal
    obtain ⟨rfl, isSelect⟩ := (gives_take_exactly_iff setting).mp taken
    obtain ⟨_, _, _, columnsGive, equal⟩ := bind_outcome_eq_ok_iff.mp equal
    obtain ⟨items, itemsGive, rfl⟩ := gives_bind_map_iff.mp columnsGive
    obtain ⟨fromWord, sourcesPlace, _, taken, equal⟩ := bind_outcome_eq_ok_iff.mp equal
    obtain ⟨rfl, isFrom⟩ := (gives_take_exactly_iff setting).mp taken
    obtain ⟨_, sourcesEnd, _, sourcesGive, equal⟩ := bind_outcome_eq_ok_iff.mp equal
    obtain ⟨names, namesGive, rfl⟩ := gives_bind_map_iff.mp sourcesGive
    exact
      ⟨selectWord, fromWord, columnsPlace, sourcesPlace, sourcesEnd, items, names, rfl,
        isSelect, itemsGive, isFrom, namesGive, equal⟩
  · rintro ⟨selectWord, fromWord, columnsPlace, sourcesPlace, sourcesEnd, items, names,
      rfl, isSelect, itemsGive, isFrom, namesGive, equal⟩
    exact (query_of_gives isSelect itemsGive isFrom namesGive).trans equal

theorem optionalClauses_eq_ok_iff_phrases
    {cursor : Cursor} {items : List SelectItem} {names : List String} {result : Query}
    (endsWell : setting.ending = .ok ending)
    (isEnd : ending.content = .endOfInput)
    (isTop : cursor.depth = 0)
    (isUnended : ∀ token ∈ cursor.tokens, token.content ≠ .endOfInput) :
    optionalClauses setting Clause.optional { select := items, sources := names } cursor =
        .ok result ↔
      ClausePhrases setting.maxDepth result cursor.tokens ∧
        result.select = items ∧ result.sources = names := by
  unfold Clause.optional
  constructor
  · intro equal
    obtain ⟨condition, _, _, rfl, conditionPhrase, equal⟩ :=
      (optionalClauses_condition_iff endsWell isTop rfl (by decide)).mp equal
    obtain ⟨facet, _, _, rfl, facetPhrase, equal⟩ :=
      (optionalClauses_facet_iff endsWell rfl (by decide)).mp equal
    obtain ⟨limit, _, _, rfl, limitPhrase, equal⟩ :=
      (optionalClauses_limit_iff rfl (by decide)).mp equal
    obtain ⟨since, _, _, rfl, sincePhrase, equal⟩ :=
      (optionalClauses_since_iff rfl (by decide)).mp equal
    obtain ⟨upTo, _, _, rfl, upToPhrase, equal⟩ :=
      (optionalClauses_upTo_iff rfl (by decide)).mp equal
    obtain ⟨compareWith, _, _, rfl, comparePhrase, equal⟩ :=
      (optionalClauses_compareWith_iff rfl (by decide)).mp equal
    obtain ⟨timeseries, _, last, rfl, timeseriesPhrase, equal⟩ :=
      (optionalClauses_timeseries_iff rfl (by decide)).mp equal
    have isUnended' : ∀ token ∈ last.tokens, token.content ≠ .endOfInput := by
      intro token isIn
      exact isUnended token (by simp [isIn])
    obtain ⟨atEnd, rfl⟩ := (optionalClauses_nil_iff endsWell isEnd isUnended').mp equal
    refine ⟨?_, rfl, rfl⟩
    simp only [Cursor.tokens_preceded, atEnd, List.append_nil, ← List.append_assoc]
    exact
      .clauses conditionPhrase facetPhrase limitPhrase sincePhrase upToPhrase comparePhrase
        timeseriesPhrase
  · rintro ⟨phrases, rfl, rfl⟩
    obtain ⟨tokens, depth⟩ := cursor
    obtain rfl : depth = 0 := isTop
    cases phrases with
    | @clauses condition facet limit since upTo compareWith timeseries conditionPhrase
        facetPhrase limitPhrase sincePhrase upToPhrase comparePhrase timeseriesPhrase =>
      have peeled :
          Cursor.mk
              (condition ++ facet ++ limit ++ since ++ upTo ++ compareWith ++ timeseries) 0 =
            ((((((Cursor.preceded ⟨[], 0⟩ timeseries).preceded compareWith).preceded
              upTo).preceded since).preceded limit).preceded facet).preceded condition := by
        simp [Cursor.preceded]
      refine (congrArg (optionalClauses setting _ _) peeled).trans ?_
      refine
        (optionalClauses_condition_iff endsWell rfl rfl (by decide)).mpr
          ⟨condition, result.condition, _, rfl, conditionPhrase, ?_⟩
      refine
        (optionalClauses_facet_iff endsWell rfl (by decide)).mpr
          ⟨facet, result.facet, _, rfl, facetPhrase, ?_⟩
      refine
        (optionalClauses_limit_iff rfl (by decide)).mpr
          ⟨limit, result.limit, _, rfl, limitPhrase, ?_⟩
      refine
        (optionalClauses_since_iff rfl (by decide)).mpr
          ⟨since, result.since, _, rfl, sincePhrase, ?_⟩
      refine
        (optionalClauses_upTo_iff rfl (by decide)).mpr
          ⟨upTo, result.upTo, _, rfl, upToPhrase, ?_⟩
      refine
        (optionalClauses_compareWith_iff rfl (by decide)).mpr
          ⟨compareWith, result.compareWith, _, rfl, comparePhrase, ?_⟩
      refine
        (optionalClauses_timeseries_iff rfl (by decide)).mpr
          ⟨timeseries, result.timeseries, _, rfl, timeseriesPhrase, ?_⟩
      exact (optionalClauses_nil_iff endsWell isEnd (by simp)).mpr ⟨rfl, rfl⟩

/-- A query is read at a bound on nesting exactly where its phrase is nested no deeper. -/
theorem query_eq_ok_iff_phrase
    {cursor : Cursor} {result : Query}
    (endsWell : setting.ending = .ok ending)
    (isEnd : ending.content = .endOfInput)
    (isTop : cursor.depth = 0)
    (isUnended : ∀ token ∈ cursor.tokens, token.content ≠ .endOfInput) :
    query setting cursor = .ok result ↔
      QueryPhrase setting.maxDepth cursor.tokens result := by
  rw [query_eq_ok_iff]
  constructor
  · rintro ⟨selectWord, fromWord, columnsPlace, sourcesPlace, sourcesEnd, items, names,
      rfl, isSelect, itemsGive, isFrom, namesGive, equal⟩
    have ends := (clauseAhead_of_optionalClauses equal).clauseEnds
    obtain ⟨sources, rfl, sourcesPhrase⟩ := (gives_nameList_iff endsWell ends).mp namesGive
    have columnsTop : columnsPlace.depth = 0 := isTop
    have fromEnds :=
      @clauseEnds_keyword .source fromWord [] (sourcesEnd.preceded sources) isFrom
    obtain ⟨select, rfl, selectPhrase⟩ :=
      (gives_selectList_iff endsWell columnsTop fromEnds).mp itemsGive
    have endTop : sourcesEnd.depth = 0 := isTop
    have isUnended' : ∀ token ∈ sourcesEnd.tokens, token.content ≠ .endOfInput := by
      intro token isIn
      exact isUnended token (by simp [isIn])
    obtain ⟨clausePhrases, rfl, rfl⟩ :=
      (optionalClauses_eq_ok_iff_phrases endsWell isEnd endTop isUnended').mp equal
    have phrase := QueryPhrase.query isSelect selectPhrase isFrom sourcesPhrase clausePhrases
    simpa using phrase
  · intro phrase
    obtain ⟨tokens, depth⟩ := cursor
    obtain rfl : depth = 0 := isTop
    cases phrase with
    | @query _ selectWord fromWord select sources clauses isSelect selectPhrase isFrom
        sourcesPhrase clausePhrases =>
      let sourcesEnd : Cursor := ⟨clauses, 0⟩
      have isUnended' : ∀ token ∈ sourcesEnd.tokens, token.content ≠ .endOfInput := by
        intro token isIn
        exact isUnended token (by simp [show token ∈ clauses from isIn])
      have equal :=
        (optionalClauses_eq_ok_iff_phrases endsWell isEnd rfl isUnended').mpr
          ⟨clausePhrases, rfl, rfl⟩
      have ends := (clauseAhead_of_optionalClauses equal).clauseEnds
      let sourcesPlace := sourcesEnd.preceded sources
      refine
        ⟨selectWord, fromWord, (sourcesPlace.preceded [fromWord]).preceded select,
          sourcesPlace, sourcesEnd, result.select, result.sources, ?_, isSelect, ?_,
          isFrom, ?_, equal⟩
      · simp [Cursor.preceded, sourcesPlace, sourcesEnd]
      · exact
          (gives_selectList_iff endsWell rfl
              (@clauseEnds_keyword .source fromWord [] _ isFrom)).mpr
            ⟨select, rfl, selectPhrase⟩
      · exact (gives_nameList_iff endsWell ends).mpr ⟨sources, rfl, sourcesPhrase⟩

/-! ## The end of a query that is read -/

theorem preceded_of_gives_nameList
    {expected : Expectation} {names : List String} {place behind : Cursor}
    (gives : Gives (nameList setting expected place) names behind) :
    ∃ used, place = behind.preceded used := by
  obtain ⟨used, equal, _⟩ :=
    separated_of_gives_commaSeparated (fun _ => gives_name_iff.mp) rfl gives
  exact ⟨used, equal⟩

theorem preceded_of_gives_selectList
    {items : List SelectItem} {place behind : Cursor}
    (gives : Gives (selectList setting place) items behind) :
    ∃ used, place = behind.preceded used := by
  obtain ⟨used, equal, _⟩ :=
    @separated_of_gives_commaSeparated setting _ _ (fun _ _ => True) place.depth
      (fun _ itemGives =>
        (columnPhrase_of_gives_selectItem itemGives).imp fun _ phrase => ⟨phrase.1, trivial⟩)
      _ _ _ rfl gives
  exact ⟨used, equal⟩

/-- The body of a clause is a run of tokens. -/
theorem preceded_of_gives_clauseBody
    {clause : Clause} {before middle : Query} {place behind : Cursor}
    (gives : Gives (clauseBody setting clause before place) middle behind) :
    ∃ used, place = behind.preceded used := by
  cases clause with
  | select =>
      obtain ⟨_, itemsGive, _⟩ := gives_bind_map_iff.mp gives
      exact preceded_of_gives_selectList itemsGive
  | source | facet =>
      obtain ⟨_, namesGive, _⟩ := gives_bind_map_iff.mp gives
      exact preceded_of_gives_nameList namesGive
  | condition =>
      obtain ⟨_, expressionGives, _⟩ := gives_bind_map_iff.mp gives
      obtain ⟨⟨used, equal, _⟩, _⟩ := reads_of_gives_expression expressionGives
      exact ⟨used, equal⟩
  | limit =>
      obtain ⟨_, amountGives, _⟩ := gives_bind_map_iff.mp gives
      obtain ⟨used, equal, _⟩ := gives_positiveInteger_iff.mp amountGives
      exact ⟨used, equal⟩
  | since | upTo =>
      obtain ⟨_, timeGives, _⟩ := gives_bind_map_iff.mp gives
      obtain ⟨used, equal, _⟩ := gives_timeSpec_iff.mp timeGives
      exact ⟨used, equal⟩
  | compareWith =>
      obtain ⟨heading, body, _, equal, _⟩ := gives_compareWith_iff.mp gives
      exact ⟨heading ++ body, equal⟩
  | timeseries =>
      obtain ⟨_, bucketGives, _⟩ := gives_bind_map_iff.mp gives
      obtain ⟨used, equal, _⟩ := gives_bucketing_iff.mp bucketGives
      exact ⟨used, equal⟩

/-- The optional clauses are read up to the end, which then is a token. -/
theorem exists_ending_of_optionalClauses
    {allowed : List Clause} {cursor : Cursor} {before result : Query}
    (isUnended : ∀ token ∈ cursor.tokens, token.content ≠ .endOfInput)
    (equal : optionalClauses setting allowed before cursor = .ok result) :
    ∃ token, setting.ending = .ok token := by
  induction size : cursor.size using Nat.strongRecOn
    generalizing allowed cursor before with
  | _ size ih =>
      obtain ⟨token, ahead, ⟨isEnd, _⟩ |
        ⟨_, clause, later, place, behind, middle, rfl, _, gives, restEqual⟩⟩ :=
        optionalClauses_eq_ok_iff.mp equal
      · rcases cursor.eq_end_or_preceded with atEnd | ⟨other, place, rfl⟩
        · rw [peek_end setting atEnd] at ahead
          exact ⟨token, ahead⟩
        · cases ahead
          exact absurd isEnd (isUnended _ (by simp))
      · obtain ⟨used, rfl⟩ := preceded_of_gives_clauseBody gives
        simp only [Cursor.size_preceded, List.length_singleton] at size
        refine ih behind.size (by omega) (fun other isIn => ?_) restEqual rfl
        exact isUnended other (by simp [isIn])

theorem exists_ending_of_query
    {cursor : Cursor} {result : Query}
    (isUnended : ∀ token ∈ cursor.tokens, token.content ≠ .endOfInput)
    (equal : query setting cursor = .ok result) :
    ∃ token, setting.ending = .ok token := by
  obtain ⟨selectWord, fromWord, columnsPlace, sourcesPlace, sourcesEnd, items, names, rfl,
    _, itemsGive, _, namesGive, restEqual⟩ := query_eq_ok_iff.mp equal
  obtain ⟨select, rfl⟩ := preceded_of_gives_selectList itemsGive
  obtain ⟨sources, rfl⟩ := preceded_of_gives_nameList namesGive
  refine exists_ending_of_optionalClauses (fun token isIn => ?_) restEqual
  exact isUnended token (by simp [isIn])

end EventQuery.Grammar

namespace EventQuery

open Grammar

/-- At every bound on nesting, exactly the queries nested no deeper are read. -/
theorem TokenStream.query_eq_ok_iff
    {stream : TokenStream} {maxDepth : Nat} {query : Query}
    (isErrorFree : stream.IsErrorFree) :
    stream.query maxDepth = .ok query ↔ QueryPhrase maxDepth stream.tokens query := by
  obtain ⟨⟨ending, endsWell, isEnd⟩, isUnended⟩ := isErrorFree
  exact @query_eq_ok_iff_phrase _ ending ⟨stream.tokens, 0⟩ _ endsWell isEnd rfl isUnended

/-- A query is read off a text only if the tokens of the text are a phrase of it. -/
theorem TokenStream.phrase_of_query_ofSource
    {source : String} {limit : Option Nat} {maxDepth : Nat} {query : Query}
    (reads : (ofSource source limit).query maxDepth = .ok query) :
    (ofSource source limit).IsErrorFree ∧
      QueryPhrase maxDepth (ofSource source limit).tokens query := by
  obtain ⟨ending, endsWell⟩ := exists_ending_of_query (isUnended_ofItems _) reads
  have isErrorFree := isErrorFree_ofSource endsWell
  exact ⟨isErrorFree, (query_eq_ok_iff isErrorFree).mp reads⟩

end EventQuery
