import EventQuery.Proofs.Runs.Expression

/-!
# Clauses and queries in two runs

Every clause agrees with itself on corresponding tokens, and so does the whole
reader of queries: `query_agree`.
-/

namespace EventQuery.Grammar.TwoRuns

variable {runs : TwoRuns}

/-! ## Columns and names -/

theorem nestedExpression_agree (bound otherBound : Nat) :
    runs.NestedAgree (nestedExpression runs.first bound)
      (nestedExpression runs.second otherBound) :=
  fun context _ _ _ _ places => expression_agree context places

theorem startsColumn_eq {token twin : Token} (agree : token.Agrees twin) :
    startsColumn token = startsColumn twin := by
  unfold startsColumn
  rw [agree.name?, agree.content]

theorem column_agree {place other : Cursor} (places : runs.PlacesAgree place other) :
    runs.ReadAlike (column runs.first place) (column runs.second other) := by
  unfold column
  refine (peek_agree places).bind fun {token twin} twins => ?_
  rw [startsColumn_eq (runs.agrees twins)]
  split
  · refine
      (arithmetic_agree .value _ _ _ _ places (nestedExpression_agree _ _)).bind
        fun {expression otherExpression} sameExpression => ?_
    rw [← sameExpression.value]
    split
    · exact .ok ⟨rfl, sameExpression.places⟩
    · exact .error (.unexpected _ twins)
  · exact .error (.unexpected _ twins)

theorem acceptAlike_name? : runs.AcceptAlike Eq Token.name? Token.name? :=
  acceptAlike_of_agrees fun agree => agree.name?

theorem acceptAlike_aliasName? : runs.AcceptAlike Eq aliasName? aliasName? :=
  acceptAlike_of_agrees fun agree => by
    rw [aliasName?, aliasName?, agree.string?, agree.name?]

theorem selectItem_agree {place other : Cursor} (places : runs.PlacesAgree place other) :
    runs.ReadAlike (selectItem runs.first place) (selectItem runs.second other) := by
  unfold selectItem
  refine (column_agree places).bind fun {item otherItem} sameItem => ?_
  refine bind_takeIf?_agree sameItem.places (acceptAlike_exactly _) (.ok sameItem)
    fun {word otherWord} sameWord => ?_
  refine (take_expecting_agree sameWord.places acceptAlike_aliasName?).bind
    fun {named otherNamed} sameName => ?_
  rw [← sameItem.value]
  exact .before (.before (.ok ⟨by rw [Parsed.map, Parsed.map, sameName.value], sameName.places⟩))

theorem selectList_agree {place other : Cursor} (places : runs.PlacesAgree place other) :
    runs.ReadAlike (selectList runs.first place) (selectList runs.second other) :=
  commaSeparated_agree selectItem_agree places

theorem nameList_agree (expected : Expectation)
    {place other : Cursor} (places : runs.PlacesAgree place other) :
    runs.ReadAlike (nameList runs.first expected place)
      (nameList runs.second expected other) :=
  commaSeparated_agree
    (fun itemPlaces => take_expecting_agree itemPlaces acceptAlike_name?) places

/-! ## Amounts and points in time -/

theorem positiveInteger_agree {place other : Cursor} (places : runs.PlacesAgree place other) :
    runs.ReadAlike (positiveInteger runs.first place) (positiveInteger runs.second other) :=
  take_expecting_agree places (acceptAlike_of_agrees fun agree => agree.amount?)

theorem timeError_agree {fault otherFault : Token → TimeFault} {token twin : Token}
    (twins : runs.Twins token twin)
    (faults : runs.FaultsAgree (fault token) (otherFault twin)) :
    runs.ErrorsAgree (timeError fault token) (timeError otherFault twin) :=
  .time twins faults

/-- The same unit, named by corresponding tokens. -/
def UnitsAgree (runs : TwoRuns) (unit other : TimeUnit × Token) : Prop :=
  unit.1 = other.1 ∧ runs.Twins unit.2 other.2

theorem acceptAlike_namedUnit? : runs.AcceptAlike runs.UnitsAgree namedUnit? namedUnit? := by
  intro token twin twins
  unfold namedUnit?
  rw [(runs.agrees twins).timeUnit?]
  cases twin.timeUnit? with
  | none => exact .none
  | some unit => exact .some ⟨rfl, twins⟩

theorem durationAfter_agree (amount : UInt64)
    {place other : Cursor} (places : runs.PlacesAgree place other) :
    runs.ReadAlike (durationAfter runs.first amount place)
      (durationAfter runs.second amount other) := by
  unfold durationAfter
  refine
    (take_agree places (fun twins => timeError_agree twins (.notAUnit twins))
      acceptAlike_namedUnit?).bind fun {unit otherUnit} sameUnit => ?_
  obtain ⟨isSameUnit, areTwins⟩ := sameUnit.value
  refine
    (take_agree sameUnit.places
      (fun twins => timeError_agree twins (.missingAgo amount areTwins twins))
      (acceptAlike_exactly _)).bind fun sameWord => ?_
  rw [← isSameUnit]
  exact .before (.ok ⟨rfl, sameWord.places⟩)

/-- What two corresponding tokens start in the place of a point in time. -/
inductive TimeStartsAgree (runs : TwoRuns) : TimeStart → TimeStart → Prop where
  | whole (spec : TimeSpec) :
      TimeStartsAgree runs (.whole spec) (.whole spec)
  | amount {token other : Token}
      (twins : runs.Twins token other) :
      TimeStartsAgree runs (.amount token) (.amount other)

theorem acceptAlike_timeStart? :
    runs.AcceptAlike runs.TimeStartsAgree timeStart? timeStart? := by
  intro token twin twins
  unfold timeStart?
  rw [(runs.agrees twins).content]
  split
  · exact .some (.whole _)
  · exact .some (.whole _)
  · exact .some (.amount twins)
  · exact .none

theorem timeSpec_agree (clause : Clause)
    {place other : Cursor} (places : runs.PlacesAgree place other) :
    runs.ReadAlike (timeSpec runs.first clause place) (timeSpec runs.second clause other) := by
  unfold timeSpec
  refine
    (take_agree places (fun twins => timeError_agree twins (.notAPoint clause twins))
      acceptAlike_timeStart?).bind fun {start otherStart} sameStart => ?_
  obtain ⟨startsAgree, placesAfter⟩ := sameStart
  obtain ⟨value, startPlace, isShorter⟩ := start
  obtain ⟨otherValue, otherStartPlace, isOtherShorter⟩ := otherStart
  dsimp only at startsAgree placesAfter ⊢
  cases startsAgree with
  | whole spec => exact .ok ⟨rfl, placesAfter⟩
  | amount twins =>
      dsimp only
      rw [(runs.agrees twins).amount?]
      split
      · exact .error (timeError_agree twins (.notAnAmount twins))
      · exact .before (durationAfter_agree _ placesAfter)

/-- What two corresponding tokens start in the place of a bucket size. -/
inductive BucketStartsAgree (runs : TwoRuns) : BucketStart → BucketStart → Prop where
  | auto :
      BucketStartsAgree runs .auto .auto
  | amount {token other : Token}
      (twins : runs.Twins token other) :
      BucketStartsAgree runs (.amount token) (.amount other)

theorem acceptAlike_bucketStart? :
    runs.AcceptAlike runs.BucketStartsAgree bucketStart? bucketStart? := by
  intro token twin twins
  unfold bucketStart?
  rw [(runs.agrees twins).content]
  split
  · exact .some .auto
  · exact .some (.amount twins)
  · exact .none

theorem bucketing_agree {place other : Cursor} (places : runs.PlacesAgree place other) :
    runs.ReadAlike (bucketing runs.first place) (bucketing runs.second other) := by
  have units : runs.AcceptAlike Eq Token.timeUnit? Token.timeUnit? :=
    acceptAlike_of_agrees fun agree => agree.timeUnit?
  unfold bucketing
  refine (take_expecting_agree places acceptAlike_bucketStart?).bind
    fun {start otherStart} sameStart => ?_
  obtain ⟨startsAgree, placesAfter⟩ := sameStart
  obtain ⟨value, startPlace, isShorter⟩ := start
  obtain ⟨otherValue, otherStartPlace, isOtherShorter⟩ := otherStart
  dsimp only at startsAgree placesAfter ⊢
  cases startsAgree with
  | auto => exact .ok ⟨rfl, placesAfter⟩
  | amount twins =>
      dsimp only
      rw [(runs.agrees twins).amount?]
      split
      · exact .error (.unexpected _ twins)
      · refine (take_expecting_agree placesAfter units).bind fun sameUnit => ?_
        exact .before (.ok ⟨congrArg _ sameUnit.value, sameUnit.places⟩)

/-! ## Whole queries -/

theorem takeKeyword_agree (word : Keyword)
    {place other : Cursor} (places : runs.PlacesAgree place other) :
    runs.Agree (runs.ParsedAgree runs.Twins) (takeKeyword runs.first word place)
      (takeKeyword runs.second word other) :=
  take_expecting_agree places (acceptAlike_exactly _)

theorem clauseBody_agree (clause : Clause) (query : Query)
    {place other : Cursor} (places : runs.PlacesAgree place other) :
    runs.ReadAlike (clauseBody runs.first clause query place)
      (clauseBody runs.second clause query other) := by
  cases clause with
  | select => exact (selectList_agree places).mapped fun same => by rw [same]
  | source => exact (nameList_agree _ places).mapped fun same => by rw [same]
  | condition => exact (expression_agree _ places).mapped fun same => by rw [same]
  | facet => exact (nameList_agree _ places).mapped fun same => by rw [same]
  | limit => exact (positiveInteger_agree places).mapped fun same => by rw [same]
  | since => exact (timeSpec_agree _ places).mapped fun same => by rw [same]
  | upTo => exact (timeSpec_agree _ places).mapped fun same => by rw [same]
  | compareWith =>
      refine (takeKeyword_agree _ places).bind fun sameWord => ?_
      refine (timeSpec_agree _ sameWord.places).bind fun sameSpec => ?_
      exact .before (.ok ⟨by rw [Parsed.map, Parsed.map, sameSpec.value], sameSpec.places⟩)
  | timeseries => exact (bucketing_agree places).mapped fun same => by rw [same]

theorem clauseAt?_eq {token twin : Token}
    (agree : token.Agrees twin)
    (clauses : List Clause) :
    clauseAt? token clauses = clauseAt? twin clauses := by
  induction clauses with
  | nil => rfl
  | cons clause later ih => rw [clauseAt?, clauseAt?, agree.content, ih]

theorem optionalClauses_agree (allowed : List Clause) (query : Query)
    {place other : Cursor} (places : runs.PlacesAgree place other) :
    runs.Agree Eq (optionalClauses runs.first allowed query place)
      (optionalClauses runs.second allowed query other) := by
  have clauses :
      runs.AcceptAlike Eq (fun token => clauseAt? token allowed)
        (fun token => clauseAt? token allowed) :=
    acceptAlike_of_agrees fun agree => clauseAt?_eq agree allowed
  rw [optionalClauses, optionalClauses]
  refine (peek_agree places).bind fun {token twin} twins => ?_
  rw [(runs.agrees twins).content]
  split
  · exact .ok rfl
  · refine (take_expecting_agree places clauses).bind fun {start otherStart} sameStart => ?_
    rw [← sameStart.value]
    refine (clauseBody_agree _ query sameStart.places).bind fun {body otherBody} sameBody => ?_
    rw [← sameBody.value]
    have isShorter := Nat.lt_trans body.size_lt start.size_lt
    exact optionalClauses_agree _ _ sameBody.places
termination_by place.size

/-- The reader of queries agrees with itself on corresponding tokens. -/
theorem query_agree {place other : Cursor} (places : runs.PlacesAgree place other) :
    runs.Agree Eq (query runs.first place) (query runs.second other) := by
  unfold query
  refine (takeKeyword_agree _ places).bind fun sameSelect => ?_
  refine (clauseBody_agree .select _ sameSelect.places).bind
    fun {columns otherColumns} sameColumns => ?_
  refine (takeKeyword_agree _ sameColumns.places).bind fun sameFrom => ?_
  rw [← sameColumns.value]
  refine (clauseBody_agree .source _ sameFrom.places).bind
    fun {sources otherSources} sameSources => ?_
  rw [← sameSources.value]
  exact optionalClauses_agree _ _ sameSources.places

end EventQuery.Grammar.TwoRuns
