import EventQuery.Proofs.Json.Query

/-!
# Queries read off JSON text

What is decoded from an expressible value has finite numbers only, since an
integer that is too large for a whole number still is a finite binary64 one.
So a query that came from JSON has a text of its own, and is read off it again.
-/

namespace EventQuery

open Decimal

/-! ## Integers are finite -/

/-- An integer below `2 ^ 64` is far from infinity. -/
theorem Decimal.Binary64.isFinite_ofInt {value : Int}
    (isInRange : Json.isIntegerRange value = true) :
    (Binary64.ofInt value).isFinite = true := by
  obtain ⟨isAbove, isBelow⟩ := Json.isIntegerRange_iff.mp isInRange
  have isSmall : value.natAbs < twoTo 64 := by
    have size : UInt64.size = twoTo 64 := rfl
    have bound : twoTo 64 = 18446744073709551616 := by decide
    rw [Int64.toInt_minValue] at isAbove
    omega
  have isFinite : rankOfDecimal value.natAbs 0 < infinityRank := by
    unfold rankOfDecimal
    split
    · decide
    · rw [if_neg (by decide)]
      split
      · decide
      · have isScaled : value.natAbs * fineness < twoTo 1138 := by
          have power : twoTo 1138 = twoTo 64 * fineness := by decide +kernel
          rw [power]
          exact Nat.mul_lt_mul_of_pos_right isSmall (twoTo_pos 1074)
        have isBelowInfinity := rankBelow_lt (by decide) isScaled
        have isRounded := nearestRank_le_succ (value.natAbs * fineness) 1
        have isFar : (1138 - 51) * blockSize + 1 < infinityRank := by decide
        change nearestRank (value.natAbs * 1 * fineness) 1 < infinityRank
        rw [Nat.div_one] at isRounded
        rw [Nat.mul_one]
        omega
  have rank : (Binary64.ofInt value).rank ≤ rankOfDecimal value.natAbs 0 := Nat.min_le_left _ _
  exact decide_eq_true (Nat.lt_of_le_of_lt rank isFinite)

/-! ## Parts of expressible values -/

namespace Json

theorem isExpressible_of_lookup? {fields : List (String × Json)} {name : String} {value : Json}
    (areExpressible : ∀ field ∈ fields, field.2.IsExpressible)
    (found : lookup? fields name = some value) :
    value.IsExpressible := by
  induction fields with
  | nil => cases found
  | cons field fields ih =>
      obtain ⟨isExpressible, othersExpressible⟩ := List.forall_mem_cons.mp areExpressible
      rw [lookup?] at found
      split at found
      · rename_i later foundLater
        cases found
        exact ih othersExpressible foundLater
      · split at found
        · cases found
          exact isExpressible
        · cases found

theorem IsExpressible.field {json value : Json} {name : String}
    (isExpressible : json.IsExpressible)
    (found : json.field? name = some value) :
    value.IsExpressible := by
  cases isExpressible with
  | object areExpressible => exact isExpressible_of_lookup? areExpressible found
  | _ => cases found

theorem IsExpressible.items {json : Json} {items : List Json}
    (isExpressible : json.IsExpressible)
    (found : json.items? = some items) :
    ∀ item ∈ items, item.IsExpressible := by
  cases isExpressible with
  | array areExpressible =>
      cases found
      exact areExpressible
  | _ => cases found

/-- Everything in a list that was decoded comes from an item. -/
theorem exists_of_mapM {α : Type} {decode : Json → Option α} {items : List Json}
    {results : List α} {result : α}
    (decodes : items.mapM decode = some results)
    (isIn : result ∈ results) :
    ∃ item ∈ items, decode item = some result := by
  induction items generalizing results with
  | nil =>
      cases decodes
      cases isIn
  | cons item items ih =>
      rw [List.mapM_cons] at decodes
      obtain ⟨first, decodesFirst, decodes⟩ := Option.bind_eq_some_iff.mp decodes
      obtain ⟨others, decodesOthers, isList⟩ := Option.bind_eq_some_iff.mp decodes
      cases isList
      rcases List.mem_cons.mp isIn with rfl | isLater
      · exact ⟨item, List.mem_cons_self, decodesFirst⟩
      · obtain ⟨later, isItem, decodesLater⟩ := ih decodesOthers isLater
        exact ⟨later, List.mem_cons_of_mem _ isItem, decodesLater⟩

/-- Everything in a list that a field holds comes from an expressible value. -/
theorem IsExpressible.of_listField? {α : Type} {decode : Json → Option α} {json : Json}
    {name : String} {results : List α} {result : α}
    (isExpressible : json.IsExpressible)
    (decodes : json.listField? decode name = some results)
    (isIn : result ∈ results) :
    ∃ item : Json, item.IsExpressible ∧ decode item = some result := by
  obtain ⟨list, isField, decodes⟩ := Option.bind_eq_some_iff.mp decodes
  obtain ⟨items, areItems, decodes⟩ := Option.bind_eq_some_iff.mp decodes
  obtain ⟨item, isItem, decodesItem⟩ := exists_of_mapM decodes isIn
  exact ⟨item, (isExpressible.field isField).items areItems item isItem, decodesItem⟩

/-- What an optional field holds comes from an expressible value. -/
theorem IsExpressible.of_optionField? {α : Type} {decode : Json → Option α} {json : Json}
    {name : String} {result : α}
    (isExpressible : json.IsExpressible)
    (decodes : json.optionField? decode name = some (some result)) :
    ∃ value : Json, value.IsExpressible ∧ decode value = some result := by
  unfold optionField? at decodes
  split at decodes
  · cases decodes
  · cases decodes
  · rename_i value _ isField
    obtain ⟨decoded, decodesValue, isSame⟩ := Option.map_eq_some_iff.mp decodes
    cases isSame
    exact ⟨value, isExpressible.field isField, decodesValue⟩

end Json

/-! ## Decoded numbers are finite -/

/-- All numbers of a list are finite. -/
def AreFinite (numbers : List Number) : Prop :=
  ∀ number ∈ numbers, number.isFinite = true

theorem areFinite_append {first second : List Number} :
    AreFinite (first ++ second) ↔ AreFinite first ∧ AreFinite second :=
  List.forall_mem_append

theorem areFinite_nil : AreFinite [] :=
  List.forall_mem_nil _

theorem Number.isFinite_of_ofJson? {json : Json} {number : Number}
    (isExpressible : json.IsExpressible)
    (decodes : ofJson? json = some number) :
    number.isFinite = true := by
  cases isExpressible with
  | integer isInRange =>
      rw [ofJson?] at decodes
      split at decodes
      · rename_i whole isWhole
        cases decodes
        obtain ⟨value, rfl, _⟩ := ofInt?_eq_some_iff.mp isWhole
        rfl
      · cases decodes
        exact Binary64.isFinite_ofInt isInRange
  | float isFinite =>
      cases decodes
      exact isFinite
  | _ => cases decodes

theorem Literal.areFinite_of_ofJson? {json : Json} {literal : Literal}
    (isExpressible : json.IsExpressible)
    (decodes : ofJson? json = some literal) :
    AreFinite literal.numbers := by
  unfold ofJson? at decodes
  split at decodes
  · cases decodes
    exact areFinite_nil
  · cases decodes
    exact areFinite_nil
  · obtain ⟨number, decodesNumber, rfl⟩ := Option.map_eq_some_iff.mp decodes
    exact List.forall_mem_singleton.mpr (Number.isFinite_of_ofJson? isExpressible decodesNumber)

namespace Expression

mutual

/-- The numbers of an expression that was decoded from an expressible value are finite. -/
theorem areFinite_of_ofJson? {json : Json} {expression : Expression}
    (isExpressible : json.IsExpressible)
    (decodes : ofJson? json = some expression) :
    AreFinite expression.numbers := by
  rw [ofJson?] at decodes
  split at decodes
  · obtain ⟨value, decodesValue, isSame⟩ := Option.bind_eq_some_iff.mp decodes
    cases isSame
    obtain ⟨inner, isField, decodesInner⟩ := Option.bind_eq_some_iff.mp decodesValue
    exact Literal.areFinite_of_ofJson? (isExpressible.field isField) decodesInner
  · obtain ⟨name, _, isSame⟩ := Option.bind_eq_some_iff.mp decodes
    cases isSame
    exact areFinite_nil
  · cases decodes
    exact areFinite_nil
  · obtain ⟨name, _, decodes⟩ := Option.bind_eq_some_iff.mp decodes
    split at decodes
    · cases decodes
    · rename_i value isField
      split at decodes
      · cases decodes
      · rename_i values areItems
        obtain ⟨arguments, decodesArguments, isSame⟩ := Option.bind_eq_some_iff.mp decodes
        cases isSame
        have isSmaller := Json.sizeOf_lt_of_field? isField
        have isSmallerStill := Json.sizeOf_lt_of_items? areItems
        exact
          listAreFinite_of_listOfJson? ((isExpressible.field isField).items areItems)
            decodesArguments
  · obtain ⟨operator, _, decodes⟩ := Option.bind_eq_some_iff.mp decodes
    split at decodes
    · rename_i leftValue rightValue isLeft isRight
      obtain ⟨left, decodesLeft, decodes⟩ := Option.bind_eq_some_iff.mp decodes
      obtain ⟨right, decodesRight, isSame⟩ := Option.bind_eq_some_iff.mp decodes
      cases isSame
      have isLeftSmaller := Json.sizeOf_lt_of_field? isLeft
      have isRightSmaller := Json.sizeOf_lt_of_field? isRight
      exact
        areFinite_append.mpr
          ⟨areFinite_of_ofJson? (isExpressible.field isLeft) decodesLeft,
            areFinite_of_ofJson? (isExpressible.field isRight) decodesRight⟩
    · cases decodes
  · obtain ⟨operator, _, decodes⟩ := Option.bind_eq_some_iff.mp decodes
    split at decodes
    · cases decodes
    · rename_i value isField
      obtain ⟨operand, decodesOperand, isSame⟩ := Option.bind_eq_some_iff.mp decodes
      cases isSame
      have isSmaller := Json.sizeOf_lt_of_field? isField
      have operandFinite := areFinite_of_ofJson? (isExpressible.field isField) decodesOperand
      exact operandFinite
  · obtain ⟨name, _, decodes⟩ := Option.bind_eq_some_iff.mp decodes
    obtain ⟨values, decodesValues, decodes⟩ := Option.bind_eq_some_iff.mp decodes
    obtain ⟨negated, _, isSame⟩ := Option.bind_eq_some_iff.mp decodes
    cases isSame
    intro number isNumber
    obtain ⟨value, isValue, isIn⟩ := List.mem_flatMap.mp isNumber
    obtain ⟨item, itemExpressible, decodesItem⟩ :=
      isExpressible.of_listField? decodesValues isValue
    exact Literal.areFinite_of_ofJson? itemExpressible decodesItem number isIn
  · obtain ⟨name, _, decodes⟩ := Option.bind_eq_some_iff.mp decodes
    obtain ⟨pattern, _, decodes⟩ := Option.bind_eq_some_iff.mp decodes
    obtain ⟨negated, _, isSame⟩ := Option.bind_eq_some_iff.mp decodes
    cases isSame
    exact areFinite_nil
  · cases decodes
termination_by sizeOf json

theorem listAreFinite_of_listOfJson? {values : List Json} {expressions : List Expression}
    (areExpressible : ∀ value ∈ values, value.IsExpressible)
    (decodes : listOfJson? values = some expressions) :
    AreFinite (listNumbers expressions) := by
  cases values with
  | nil =>
      rw [listOfJson?] at decodes
      cases decodes
      exact areFinite_nil
  | cons value others =>
      obtain ⟨isExpressible, othersExpressible⟩ := List.forall_mem_cons.mp areExpressible
      rw [listOfJson?] at decodes
      obtain ⟨expression, decodesFirst, decodes⟩ := Option.bind_eq_some_iff.mp decodes
      obtain ⟨later, decodesOthers, isSame⟩ := Option.bind_eq_some_iff.mp decodes
      cases isSame
      exact
        areFinite_append.mpr
          ⟨areFinite_of_ofJson? isExpressible decodesFirst,
            listAreFinite_of_listOfJson? othersExpressible decodesOthers⟩
termination_by sizeOf values

end

end Expression

theorem SelectItem.areFinite_of_ofJson? {json : Json} {item : SelectItem}
    (isExpressible : json.IsExpressible)
    (decodes : ofJson? json = some item) :
    AreFinite (Expression.listNumbers item.arguments) := by
  obtain ⟨function, _, decodes⟩ := Option.bind_eq_some_iff.mp decodes
  obtain ⟨arguments, decodesArguments, decodes⟩ := Option.bind_eq_some_iff.mp decodes
  obtain ⟨aliasName, _, isSame⟩ := Option.bind_eq_some_iff.mp decodes
  cases isSame
  intro number isNumber
  obtain ⟨argument, isArgument, isIn⟩ := Expression.mem_listNumbers_iff.mp isNumber
  obtain ⟨value, valueExpressible, decodesValue⟩ :=
    isExpressible.of_listField? decodesArguments isArgument
  exact Expression.areFinite_of_ofJson? valueExpressible decodesValue number isIn

/-- The numbers of a query that was decoded from an expressible value are finite. -/
theorem Query.areFinite_of_ofJson? {json : Json} {query : Query}
    (isExpressible : json.IsExpressible)
    (decodes : ofJson? json = some query) :
    AreFinite query.numbers := by
  obtain ⟨select, decodesSelect, decodes⟩ := Option.bind_eq_some_iff.mp decodes
  obtain ⟨sources, _, decodes⟩ := Option.bind_eq_some_iff.mp decodes
  obtain ⟨condition, decodesCondition, decodes⟩ := Option.bind_eq_some_iff.mp decodes
  obtain ⟨facet, _, decodes⟩ := Option.bind_eq_some_iff.mp decodes
  obtain ⟨limit, _, decodes⟩ := Option.bind_eq_some_iff.mp decodes
  obtain ⟨since, _, decodes⟩ := Option.bind_eq_some_iff.mp decodes
  obtain ⟨upTo, _, decodes⟩ := Option.bind_eq_some_iff.mp decodes
  obtain ⟨compareWith, _, decodes⟩ := Option.bind_eq_some_iff.mp decodes
  obtain ⟨timeseries, _, isSame⟩ := Option.bind_eq_some_iff.mp decodes
  cases isSame
  refine areFinite_append.mpr ⟨?_, ?_⟩
  · intro number isNumber
    obtain ⟨item, isItem, isIn⟩ := List.mem_flatMap.mp isNumber
    obtain ⟨value, valueExpressible, decodesValue⟩ :=
      isExpressible.of_listField? decodesSelect isItem
    exact SelectItem.areFinite_of_ofJson? valueExpressible decodesValue number isIn
  · cases condition with
    | none => exact areFinite_nil
    | some expression =>
        obtain ⟨value, valueExpressible, decodesValue⟩ :=
          isExpressible.of_optionField? decodesCondition
        intro number isNumber
        obtain ⟨only, isOnly, isIn⟩ := List.mem_flatMap.mp isNumber
        cases List.mem_singleton.mp isOnly
        exact Expression.areFinite_of_ofJson? valueExpressible decodesValue number isIn

/-! ## Text -/

/-- The query that a JSON text says. -/
def Query.ofJsonText? (text : String) : Option Query :=
  (Json.ofText? text).bind ofJson?

namespace Query

/-- A query with finite numbers is read off its JSON text in either spacing. -/
theorem ofJsonText?_toJson {query : Query} (areFinite : AreFinite query.numbers) :
    ofJsonText? query.toJson.compact = some query ∧
      ofJsonText? query.toJson.pretty = some query := by
  have isExpressible := isExpressible_toJson areFinite
  constructor
  · rw [ofJsonText?, Json.ofText?_compact isExpressible, Option.bind_some, ofJson?_toJson]
  · rw [ofJsonText?, Json.ofText?_pretty isExpressible, Option.bind_some, ofJson?_toJson]

/--
Decoding undoes encoding: a query with finite numbers is read off its compact
and its pretty text, and so is a query that was decoded itself, from whatever
value it was.
-/
theorem ofJson?_undoes_toJson :
    (∀ query : Query, AreFinite query.numbers →
        ofJsonText? query.toJson.compact = some query ∧
          ofJsonText? query.toJson.pretty = some query) ∧
      ∀ (value : Json) (query : Query), ofJson? value = some query →
        ofJson? query.toJson = some query ∧
          (value.IsExpressible →
            ofJsonText? query.toJson.compact = some query ∧
              ofJsonText? query.toJson.pretty = some query) := by
  refine ⟨fun query areFinite => ofJsonText?_toJson areFinite, fun value query decodes => ?_⟩
  refine ⟨query.ofJson?_toJson, fun isExpressible => ?_⟩
  exact ofJsonText?_toJson (areFinite_of_ofJson? isExpressible decodes)

/-- A query that was read off some JSON text is read off its own JSON text again. -/
theorem ofJsonText?_again {text : String} {query : Query}
    (reads : ofJsonText? text = some query) :
    ofJsonText? query.toJson.compact = some query ∧
      ofJsonText? query.toJson.pretty = some query := by
  obtain ⟨value, isText, decodes⟩ := Option.bind_eq_some_iff.mp reads
  have isExpressible := Json.isExpressible_of_ofText? isText
  exact ofJsonText?_toJson (areFinite_of_ofJson? isExpressible decodes)

/-- A query with empty lists, and with constants that are easily taken for one another. -/
def ambiguous : Query where
  select := []
  sources := []
  condition :=
    some
      (.member "\"\\\n"
        [.number (.integer 1), .number (.float (.ofInt 1)), .number (.float (.ofRank true 0)),
          .string "5", .string "true", .boolean true]
        false)
  facet := some []

theorem ofJson?_undoes_toJson_ambiguous :
    AreFinite ambiguous.numbers ∧
      ofJsonText? ambiguous.toJson.compact = some ambiguous ∧
        ofJsonText? ambiguous.toJson.pretty = some ambiguous := by
  have isOneFinite : (Binary64.ofInt 1).isFinite = true := Binary64.isFinite_ofInt (by decide)
  have isZeroFinite : (Binary64.ofRank true 0).isFinite = true := by decide
  have areNumbers :
      ambiguous.numbers =
        [.integer 1, .float (Binary64.ofInt 1), .float (Binary64.ofRank true 0)] :=
    rfl
  have areFinite : AreFinite ambiguous.numbers := by
    rw [areNumbers]
    refine List.forall_mem_cons.mpr ⟨rfl, ?_⟩
    exact List.forall_mem_cons.mpr ⟨isOneFinite, List.forall_mem_singleton.mpr isZeroFinite⟩
  exact ⟨areFinite, ofJson?_undoes_toJson.1 ambiguous areFinite⟩

end Query

end EventQuery
