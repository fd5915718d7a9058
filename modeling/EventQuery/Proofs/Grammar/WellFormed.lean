import EventQuery.Proofs.Grammar.Acceptance
import EventQuery.Proofs.Number
import EventQuery.Proofs.Query.WellFormed
import EventQuery.Proofs.Token.Proper

/-!
# Whatever is derived is well-formed

Phrases of proper tokens say well-formed expressions, and queries of proper
tokens are well-formed queries.  So every text that is read gives a
well-formed query, within whatever limits it is read.
-/

namespace EventQuery.Grammar

/-! ## Numbers -/

theorem numbers_of_literalPhrase
    {tokens : List Token} {value : Literal} {number : Number}
    (phrase : LiteralPhrase tokens value)
    (areProper : AreProper tokens)
    (isIn : number ∈ value.numbers) :
    number ≠ .integer Int64.minValue := by
  cases phrase with
  | string means => cases isIn
  | number means =>
      obtain rfl := List.mem_singleton.mp isIn
      have isProper := areProper _ List.mem_cons_self
      intro isLeast
      have isUnsigned := isProper.isUnsigned (isLeast ▸ means)
      exact absurd isUnsigned (by decide)
  | boolean means => cases isIn
  | opposite isMinus means isOpposite =>
      obtain rfl := List.mem_singleton.mp isIn
      exact Number.opposite_ne_minValue isOpposite

theorem numbers_of_separated_literals
    {tokens : List Token} {values : List Literal} {number : Number}
    (separated : Separated LiteralPhrase tokens values)
    (areProper : AreProper tokens)
    (isIn : number ∈ values.flatMap Literal.numbers) :
    number ≠ .integer Int64.minValue := by
  induction separated with
  | last item =>
      rw [List.flatMap_singleton] at isIn
      exact numbers_of_literalPhrase item areProper isIn
  | more item isComma rest ih =>
      obtain ⟨itemProper, restProper⟩ := areProper_append.mp areProper
      rw [List.flatMap_cons, List.mem_append] at isIn
      rcases isIn with isFirst | isLater
      · exact numbers_of_literalPhrase item itemProper isFirst
      · exact ih (areProper_cons.mp restProper).2 isLater

theorem numbers_of_testPhrase
    {name : String} {tokens : List Token} {expression : Expression} {number : Number}
    (test : TestPhrase name tokens expression)
    (areProper : AreProper tokens)
    (isIn : number ∈ expression.numbers) :
    number ≠ .integer Int64.minValue := by
  cases test with
  | membership mayNegate isIn' opens literals closes =>
      have inner := (areProper_append.mp areProper).2
      have literalsProper :=
        (areProper_append.mp (areProper_cons.mp (areProper_cons.mp inner).2).2).1
      exact numbers_of_separated_literals literals literalsProper isIn
  | pattern => cases isIn

mutual

/-- No number of a phrase is the least whole one. -/
theorem Phrase.numbers_ne_minValue {nesting : Nat} {level : Level} {tokens : List Token}
    {expression : Expression} {number : Number} :
    Phrase nesting level tokens expression → AreProper tokens →
      number ∈ expression.numbers → number ≠ .integer Int64.minValue
  | .loosen inner, areProper, isIn => inner.numbers_ne_minValue areProper isIn
  | .star _, _, isIn => nomatch isIn
  | .connected left _ right, areProper, isIn => by
      obtain ⟨leftProper, rightProper⟩ := areProper_append.mp areProper
      rcases List.mem_append.mp isIn with isLeft | isRight
      · exact left.numbers_ne_minValue leftProper isLeft
      · exact right.numbers_ne_minValue (areProper_cons.mp rightProper).2 isRight
  | .negation _ inner, areProper, isIn =>
      inner.numbers_ne_minValue (areProper_cons.mp areProper).2 isIn
  | .compared left _ right, areProper, isIn => by
      obtain ⟨leftProper, rightProper⟩ := areProper_append.mp areProper
      rcases List.mem_append.mp isIn with isLeft | isRight
      · exact left.numbers_ne_minValue leftProper isLeft
      · exact right.numbers_ne_minValue (areProper_cons.mp rightProper).2 isRight
  | .tested _ test, areProper, isIn =>
      numbers_of_testPhrase test (areProper_append.mp areProper).2 isIn
  | .computed left _ right, areProper, isIn => by
      obtain ⟨leftProper, rightProper⟩ := areProper_append.mp areProper
      rcases List.mem_append.mp isIn with isLeft | isRight
      · exact left.numbers_ne_minValue leftProper isLeft
      · exact right.numbers_ne_minValue (areProper_cons.mp rightProper).2 isRight
  | .opposite _ _ isOpposite, _, isIn => by
      obtain rfl := List.mem_singleton.mp isIn
      exact Number.opposite_ne_minValue isOpposite
  | .minus _ inner _, areProper, isIn =>
      inner.numbers_ne_minValue (areProper_cons.mp areProper).2 isIn
  | .number means, areProper, isIn =>
      numbers_of_literalPhrase (.number means) areProper isIn
  | .string _, _, isIn => nomatch isIn
  | .boolean _, _, isIn => nomatch isIn
  | .field _ _, _, isIn => nomatch isIn
  | .emptyCall _ _ _ _, _, isIn => nomatch isIn
  | .call _ _ _ inner _, areProper, isIn => by
      have innerProper :=
        (areProper_append.mp (areProper_cons.mp (areProper_cons.mp areProper).2).2).1
      obtain ⟨argument, isArgument, isIn⟩ := Expression.mem_listNumbers_iff.mp isIn
      exact inner.numbers_ne_minValue innerProper isArgument isIn
  | .group _ inner _, areProper, isIn =>
      inner.numbers_ne_minValue
        (areProper_append.mp (areProper_cons.mp areProper).2).1 isIn

theorem Arguments.numbers_ne_minValue {nesting : Nat} {tokens : List Token}
    {values : List Expression} {value : Expression} {number : Number} :
    Arguments nesting tokens values → AreProper tokens →
      value ∈ values → number ∈ value.numbers → number ≠ .integer Int64.minValue
  | .last item, areProper, isValue, isIn => by
      rw [List.mem_singleton.mp isValue] at isIn
      exact item.numbers_ne_minValue areProper isIn
  | .more item _ rest, areProper, isValue, isIn => by
      obtain ⟨itemProper, restProper⟩ := areProper_append.mp areProper
      rcases List.mem_cons.mp isValue with isFirst | isLater
      · rw [isFirst] at isIn
        exact item.numbers_ne_minValue itemProper isIn
      · exact rest.numbers_ne_minValue (areProper_cons.mp restProper).2 isLater isIn

end

/-! ## Expressions -/

theorem isWellFormed_of_testPhrase
    {name : String} {tokens : List Token} {expression : Expression}
    (isName : IsName name)
    (test : TestPhrase name tokens expression) :
    expression.IsWellFormed := by
  cases test with
  | membership mayNegate isIn opens literals closes =>
      refine .member isName ?_
      cases literals <;> simp
  | pattern => exact .matching isName

theorem Level.tighter_ne_argument (level : Level) : level.tighter ≠ .argument := by
  cases level <;> exact Level.noConfusion

theorem Level.ofConnective_ne_argument (connective : Connective) :
    Level.ofConnective connective ≠ .argument := by
  cases connective <;> exact Level.noConfusion

theorem Level.ofArithmetic_ne_argument (operator : Arithmetic) :
    Level.ofArithmetic operator ≠ .argument := by
  cases operator <;> exact Level.noConfusion

/-- A minus sign stays an operator only in front of something that is no number. -/
theorem isNoNumber_of_hasNoOpposite
    {operand : Expression}
    (numbers : ∀ number ∈ operand.numbers, number ≠ .integer Int64.minValue)
    (hasNoOpposite :
      ∀ value : Number, operand = .literal (.number value) → value.negate? = none)
    (value : Number) :
    operand ≠ .literal (.number value) := by
  rintro rfl
  have isNotLeast := numbers value (List.mem_singleton.mpr rfl)
  obtain ⟨opposite, isOpposite⟩ := Number.exists_opposite isNotLeast
  rw [hasNoOpposite value rfl] at isOpposite
  cases isOpposite

mutual

/-- A phrase of proper tokens is well-formed, unless it is the star as an argument. -/
theorem Phrase.isWellFormed {nesting : Nat} {level : Level} {tokens : List Token}
    {expression : Expression} :
    Phrase nesting level tokens expression → AreProper tokens →
      (level = .argument → expression ≠ .wildcard) → expression.IsWellFormed
  | @Phrase.loosen _ level _ _ inner, areProper, _ =>
      inner.isWellFormed areProper fun isArgument =>
        absurd isArgument level.tighter_ne_argument
  | .star _, _, isNoStar => absurd rfl (isNoStar rfl)
  | @Phrase.connected _ connective _ _ _ _ _ left _ right, areProper, _ => by
      obtain ⟨leftProper, rightProper⟩ := areProper_append.mp areProper
      refine .binary (left.isWellFormed leftProper ?_)
        (right.isWellFormed (areProper_cons.mp rightProper).2 ?_)
      · exact fun isArgument => absurd isArgument (Level.ofConnective_ne_argument connective)
      · exact fun isArgument => absurd isArgument (Level.tighter_ne_argument _)
  | .negation _ inner, areProper, _ =>
      .not (inner.isWellFormed (areProper_cons.mp areProper).2 Level.noConfusion)
  | .compared left _ right, areProper, _ => by
      obtain ⟨leftProper, rightProper⟩ := areProper_append.mp areProper
      exact
        .binary (left.isWellFormed leftProper Level.noConfusion)
          (right.isWellFormed (areProper_cons.mp rightProper).2 Level.noConfusion)
  | .tested left test, areProper, _ => by
      have inner := left.isWellFormed (areProper_append.mp areProper).1 Level.noConfusion
      cases inner with
      | field isName => exact isWellFormed_of_testPhrase isName test
  | @Phrase.computed _ operator _ _ _ _ _ left _ right, areProper, _ => by
      obtain ⟨leftProper, rightProper⟩ := areProper_append.mp areProper
      refine .binary (left.isWellFormed leftProper ?_)
        (right.isWellFormed (areProper_cons.mp rightProper).2 ?_)
      · exact fun isArgument => absurd isArgument (Level.ofArithmetic_ne_argument operator)
      · exact fun isArgument => absurd isArgument (Level.tighter_ne_argument _)
  | .opposite _ _ _, _, _ => .literal
  | .minus _ inner hasNoOpposite, areProper, _ => by
      have innerProper := (areProper_cons.mp areProper).2
      refine .negate (inner.isWellFormed innerProper Level.noConfusion) ?_
      exact
        isNoNumber_of_hasNoOpposite
          (fun _ isIn => inner.numbers_ne_minValue innerProper isIn) hasNoOpposite
  | .number _, _, _ => .literal
  | .string _, _, _ => .literal
  | .boolean _, _, _ => .literal
  | .field _ means, areProper, _ => .field ((areProper_cons.mp areProper).1.name means)
  | .emptyCall _ means _ _, areProper, _ =>
      .call ((areProper_cons.mp areProper).1.name means) fun _ isIn => nomatch isIn
  | .call _ means _ inner _, areProper, _ => by
      obtain ⟨isProper, rest⟩ := areProper_cons.mp areProper
      have innerProper := (areProper_append.mp (areProper_cons.mp rest).2).1
      exact
        .call (isProper.name means) fun argument isIn isNoStar =>
          inner.areWellFormed innerProper argument isIn isNoStar
  | .group _ inner _, areProper, _ =>
      inner.isWellFormed (areProper_append.mp (areProper_cons.mp areProper).2).1
        Level.noConfusion

theorem Arguments.areWellFormed {nesting : Nat} {tokens : List Token}
    {values : List Expression} :
    Arguments nesting tokens values → AreProper tokens →
      ∀ value ∈ values, value ≠ .wildcard → value.IsWellFormed
  | .last item, areProper, value, isValue, isNoStar => by
      rw [List.mem_singleton.mp isValue] at isNoStar ⊢
      exact item.isWellFormed areProper fun _ => isNoStar
  | .more item _ rest, areProper, value, isValue, isNoStar => by
      obtain ⟨itemProper, restProper⟩ := areProper_append.mp areProper
      rcases List.mem_cons.mp isValue with isFirst | isLater
      · rw [isFirst] at isNoStar ⊢
        exact item.isWellFormed itemProper fun _ => isNoStar
      · exact rest.areWellFormed (areProper_cons.mp restProper).2 value isLater isNoStar

end

/-! ## Queries -/

theorem forall_of_separated
    {α : Type} {Item : List Token → α → Prop} {Holds : α → Prop}
    {tokens : List Token} {values : List α}
    (separated : Separated Item tokens values)
    (areProper : AreProper tokens)
    (implies : ∀ {part : List Token} {value : α}, AreProper part → Item part value → Holds value) :
    values ≠ [] ∧ ∀ value ∈ values, Holds value := by
  induction separated with
  | last item => exact ⟨by simp, by simpa using implies areProper item⟩
  | more item _ _ ih =>
      obtain ⟨itemProper, restProper⟩ := areProper_append.mp areProper
      obtain ⟨_, others⟩ := ih (areProper_cons.mp restProper).2
      exact ⟨by simp, List.forall_mem_cons.mpr ⟨implies itemProper item, others⟩⟩

theorem forall_of_optionalPhrase
    {α : Type} {keywords : List Keyword} {Body : List Token → α → Prop} {Holds : α → Prop}
    {tokens : List Token} {value : Option α}
    (phrase : OptionalPhrase keywords Body tokens value)
    (areProper : AreProper tokens)
    (implies : ∀ {part : List Token} {value : α}, AreProper part → Body part value → Holds value) :
    ∀ present ∈ value, Holds present := by
  cases phrase with
  | absent => exact fun _ isIn => nomatch isIn
  | present introduces body =>
      intro present isIn
      cases isIn
      exact implies (areProper_append.mp areProper).2 body

theorem isName_of_namePhrase
    {tokens : List Token} {name : String}
    (areProper : AreProper tokens)
    (phrase : NamePhrase tokens name) :
    IsName name := by
  cases phrase with
  | name means => exact (areProper_cons.mp areProper).1.name means

theorem isAmount_of_amount? {token : Token} {amount : UInt64}
    (means : token.amount? = some amount) :
    IsAmount amount := by
  obtain ⟨value, _, isPositive, rfl⟩ := Token.amount?_eq_some_iff.mp means
  have isWhole : value.toUInt64.toNat = value.toInt.toNat :=
    Int64.toNat_toUInt64_of_le (Int64.le_iff_toInt_le.mpr (Int.le_of_lt isPositive))
  have isSame : (value.toInt.toNat : Int) = value.toInt := by omega
  rw [IsAmount, isWhole, isSame]
  exact ⟨by omega, value.toInt_le⟩

theorem isWellFormed_of_timePhrase
    {tokens : List Token} {spec : TimeSpec}
    (phrase : TimePhrase tokens spec) :
    spec.IsWellFormed := by
  cases phrase with
  | anchor means => trivial
  | timestamp means => trivial
  | ago means meansUnit isAgo => exact isAmount_of_amount? means

theorem isWellFormed_of_bucketPhrase
    {tokens : List Token} {bucket : Bucketing}
    (phrase : BucketPhrase tokens bucket) :
    bucket.IsWellFormed := by
  cases phrase with
  | auto means => trivial
  | every means meansUnit => exact isAmount_of_amount? means

theorem isWellFormed_of_columnPhrase
    {nesting : Nat} {tokens : List Token} {item : SelectItem}
    (areProper : AreProper tokens)
    (column : ColumnPhrase nesting tokens item) :
    item.IsWellFormed ∧
      ∀ number ∈ Expression.listNumbers item.arguments,
        number ≠ .integer Int64.minValue := by
  cases column with
  | unnamed phrase arithmetic computes =>
      refine ⟨⟨_, arithmetic, computes, ?_⟩, fun number isIn => ?_⟩
      · exact phrase.isWellFormed areProper Level.noConfusion
      · exact phrase.numbers_ne_minValue areProper (computes.listNumbers_eq ▸ isIn)
  | named phrase arithmetic computes _ _ =>
      have innerProper := (areProper_append.mp areProper).1
      refine ⟨⟨_, arithmetic, computes, ?_⟩, fun number isIn => ?_⟩
      · exact phrase.isWellFormed innerProper Level.noConfusion
      · exact phrase.numbers_ne_minValue innerProper (computes.listNumbers_eq ▸ isIn)

theorem isWellFormed_of_conditionPhrase
    {nesting : Nat} {tokens : List Token} {expression : Expression}
    (areProper : AreProper tokens)
    (condition : ConditionPhrase nesting tokens expression) :
    (expression.IsWellFormed ∧ expression.isCondition = true ∧
        expression.joinsConditions = true) ∧
      ∀ number ∈ expression.numbers, number ≠ .integer Int64.minValue :=
  ⟨⟨condition.phrase.isWellFormed areProper Level.noConfusion, condition.isCondition,
      condition.joinsConditions⟩,
    fun _ isIn => condition.phrase.numbers_ne_minValue areProper isIn⟩

/-- A query of proper tokens is well-formed. -/
theorem QueryPhrase.isWellFormed {nesting : Nat} {tokens : List Token} {query : Query}
    (phrase : QueryPhrase nesting tokens query)
    (areProper : AreProper tokens) :
    query.IsWellFormed := by
  obtain ⟨isSelect, selectPhrase, isFrom, sourcesPhrase, clausePhrases⟩ := phrase
  obtain ⟨conditionPhrase, facetPhrase, limitPhrase, sincePhrase, upToPhrase,
    comparePhrase, timeseriesPhrase⟩ := clausePhrases
  simp only [areProper_cons, areProper_append] at areProper
  obtain ⟨_, selectProper, _, sourcesProper, ⟨⟨⟨⟨⟨conditionProper, facetProper⟩,
    limitProper⟩, sinceProper⟩, upToProper⟩, compareProper⟩, timeseriesProper⟩ := areProper
  obtain ⟨selects, columns⟩ :=
    forall_of_separated selectPhrase selectProper isWellFormed_of_columnPhrase
  obtain ⟨hasSources, sources⟩ :=
    forall_of_separated sourcesPhrase sourcesProper isName_of_namePhrase
  have condition :=
    forall_of_optionalPhrase conditionPhrase conditionProper
      isWellFormed_of_conditionPhrase
  exact
    { selects := selects
      columns := fun item isIn => (columns item isIn).1
      hasSources := hasSources
      sources := sources
      condition := fun expression isIn => (condition expression isIn).1
      facet :=
        forall_of_optionalPhrase facetPhrase facetProper fun proper names =>
          forall_of_separated names proper isName_of_namePhrase
      limit :=
        forall_of_optionalPhrase limitPhrase limitProper fun _ phrase => by
          cases phrase with
          | amount means => exact isAmount_of_amount? means
      since :=
        forall_of_optionalPhrase sincePhrase sinceProper fun _ =>
          isWellFormed_of_timePhrase
      upTo :=
        forall_of_optionalPhrase upToPhrase upToProper fun _ => isWellFormed_of_timePhrase
      compareWith :=
        forall_of_optionalPhrase comparePhrase compareProper fun _ =>
          isWellFormed_of_timePhrase
      timeseries :=
        forall_of_optionalPhrase timeseriesPhrase timeseriesProper fun _ =>
          isWellFormed_of_bucketPhrase
      numbers := by
        intro number isIn
        rcases List.mem_append.mp isIn with inColumn | inCondition
        · obtain ⟨item, isItem, isIn⟩ := List.mem_flatMap.mp inColumn
          exact (columns item isItem).2 number isIn
        · obtain ⟨expression, isExpression, isIn⟩ := List.mem_flatMap.mp inCondition
          exact (condition expression (Option.mem_toList.mp isExpression)).2 number isIn }

end EventQuery.Grammar

namespace EventQuery

open Grammar

/-- Whatever is read off a text, within whatever limits, is a well-formed query. -/
theorem Query.isWellFormed_of_parseWithin
    {limits : Limits} {source : String} {query : Query}
    (reads : parseWithin limits source = .ok query) :
    query.IsWellFormed := by
  obtain ⟨_, phrase⟩ := TokenStream.phrase_of_query_ofSource reads
  exact phrase.isWellFormed fun token isIn => TokenStream.isProper_ofSource isIn

/-- A query in which parentheses stood that leave no trace. -/
def Query.ungrouped : Query where
  select := [⟨"max", [.unary .negate (.field "a")], none⟩]
  sources := ["sale"]
  condition := some (.unary .not (.field "b"))
  limit := some 7

theorem Query.isWellFormed_ungrouped :
    parseWithin ⟨8, none⟩ "SELECT max(-(a)) FROM sale WHERE NOT (b) LIMIT 7" =
        .ok ungrouped ∧
      ungrouped.IsWellFormed := by
  have reads :
      parseWithin ⟨8, none⟩ "SELECT max(-(a)) FROM sale WHERE NOT (b) LIMIT 7" =
        .ok ungrouped := by
    cbv
  exact ⟨reads, isWellFormed_of_parseWithin reads⟩

end EventQuery
