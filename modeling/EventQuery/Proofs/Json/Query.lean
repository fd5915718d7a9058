import EventQuery.Proofs.Json.Text
import EventQuery.Proofs.Number
import EventQuery.Proofs.Query.WellFormed
import EventQuery.Query.Decode
import EventQuery.Query.Encode

/-!
# Queries and their JSON form

Decoding undoes encoding, for every query there is: `Query.ofJson?_toJson`.  If
its numbers are finite, the JSON form of a query has a text, so the query is
also read off its text, and numbers that were decoded are always finite.
-/

namespace EventQuery

/-! ## Looking fields up -/

namespace Json

variable (name : String)

@[simp]
theorem lookup?_nil : lookup? [] name = none :=
  rfl

@[simp]
theorem lookup?_cons (key : String) (value : Json) (others : List (String × Json)) :
    lookup? ((key, value) :: others) name =
      match lookup? others name with
      | some later => some later
      | none => if key = name then some value else none :=
  rfl

@[simp]
theorem field?_tagged (form : String) (fields : List (String × Json)) :
    (tagged form fields).field? name = lookup? (("type", .string form) :: fields) name :=
  rfl

@[simp]
theorem string?_string (value : String) : (string value).string? = some value :=
  rfl

@[simp]
theorem boolean?_boolean (value : Bool) : (boolean value).boolean? = some value :=
  rfl

@[simp]
theorem items?_array (items : List Json) : (array items).items? = some items :=
  rfl

end Json

/-! ## Decoding what was encoded -/

theorem Number.ofJson?_toJson (number : Number) : ofJson? number.toJson = some number := by
  cases number with
  | integer value =>
      have isInteger : ofInt? value.toInt = some (.integer value) :=
        ofInt?_eq_some_iff.mpr ⟨value, rfl, rfl⟩
      rw [toJson, ofJson?, isInteger]
  | float value => rfl

theorem Literal.ofJson?_toJson (literal : Literal) : ofJson? literal.toJson = some literal := by
  cases literal with
  | number value =>
      have decodes := Number.ofJson?_toJson value
      cases value with
      | integer whole =>
          rw [toJson, Number.toJson] at *
          rw [ofJson?, decodes, Option.map_some]
          · intro _ isString
            cases isString
          · intro _ isBoolean
            cases isBoolean
      | float value => rfl
  | string value => rfl
  | boolean value => rfl

theorem BinaryOperator.ofJson?_toJson (operator : BinaryOperator) :
    ofJson? operator.toJson = some operator := by
  rcases operator with operator | operator | operator <;> cases operator <;> rfl

theorem UnaryOperator.ofJson?_toJson (operator : UnaryOperator) :
    ofJson? operator.toJson = some operator := by
  cases operator <;> rfl

theorem TimeUnit.ofJson?_toJson (unit : TimeUnit) : ofJson? unit.toJson = some unit := by
  cases unit <;> rfl

theorem Json.uint64?_ofUInt64 (value : UInt64) : uint64? (ofUInt64 value) = some value := by
  have isBelow := value.toNat_lt
  have bounds : 0 ≤ (value.toNat : Int) ∧ (value.toNat : Int) < UInt64.size := by
    constructor
    · exact Int.natCast_nonneg _
    · exact Int.ofNat_lt.mpr isBelow
  rw [ofUInt64, uint64?, if_pos bounds, Int.toNat_natCast, UInt64.ofNat_toNat]

/-- A list is decoded item by item. -/
theorem Json.list?_array {α : Type} {encode : α → Json} {decode : Json → Option α}
    {values : List α}
    (decodes : ∀ value ∈ values, decode (encode value) = some value) :
    list? decode (.array (values.map encode)) = some values := by
  rw [list?, items?, Option.bind_some]
  induction values with
  | nil => rfl
  | cons value values ih =>
      obtain ⟨decodesFirst, decodesOthers⟩ := List.forall_mem_cons.mp decodes
      rw [List.map_cons, List.mapM_cons, decodesFirst, ih decodesOthers]
      rfl

theorem Json.list?_ofStrings (values : List String) :
    list? string? (ofStrings values) = some values :=
  list?_array fun _ _ => rfl

/-- An optional clause is decoded from its field, and from null if it is absent. -/
theorem Json.optionField?_ofOption {α : Type} {json : Json} {name : String}
    {encode : α → Json} {decode : Json → Option α} {value : Option α}
    (isField : json.field? name = some (ofOption encode value))
    (decodes : ∀ value, decode (encode value) = some value)
    (isNoNull : ∀ value, encode value ≠ .null) :
    json.optionField? decode name = some value := by
  unfold optionField?
  rw [isField]
  cases value with
  | none => rfl
  | some value =>
      rw [ofOption]
      split
      · rename_i isAbsent
        cases isAbsent
      · rename_i isNull
        exact absurd (Option.some.inj isNull) (isNoNull value)
      · rename_i other _ isValue
        rw [← Option.some.inj isValue, decodes, Option.map_some]

theorem Json.uint64Field?_ofUInt64 {json : Json} {name : String} {value : UInt64}
    (isField : json.field? name = some (ofUInt64 value)) :
    json.uint64Field? name = some value := by
  rw [uint64Field?, isField, Option.bind_some, uint64?_ofUInt64]

theorem TimeSpec.ofJson?_toJson (spec : TimeSpec) : ofJson? spec.toJson = some spec := by
  cases spec with
  | ago amount unit =>
      have isForm : (toJson (.ago amount unit)).stringField? "type" = some "RelativeDuration" := rfl
      have isAmount : (toJson (.ago amount unit)).uint64Field? "amount" = some amount :=
        Json.uint64Field?_ofUInt64 rfl
      have isUnit : (toJson (.ago amount unit)).field? "unit" = some unit.toJson := rfl
      have isPast : (toJson (.ago amount unit)).stringField? "direction" = some "ago" := rfl
      simp only [ofJson?, isForm, isAmount, isUnit, isPast, Option.bind_some,
        TimeUnit.ofJson?_toJson]
      rfl
  | anchor point => cases point <;> rfl
  | timestamp text => rfl

theorem Bucketing.ofJson?_toJson (bucketing : Bucketing) :
    ofJson? bucketing.toJson = some bucketing := by
  cases bucketing with
  | auto => rfl
  | every amount unit =>
      have isForm : (toJson (.every amount unit)).stringField? "type" = some "FixedInterval" := rfl
      have isAmount : (toJson (.every amount unit)).uint64Field? "amount" = some amount :=
        Json.uint64Field?_ofUInt64 rfl
      have isUnit : (toJson (.every amount unit)).field? "unit" = some unit.toJson := rfl
      simp only [ofJson?, isForm, isAmount, isUnit, Option.bind_some, TimeUnit.ofJson?_toJson]
      rfl

namespace Expression

mutual

/-- Every expression is decoded from its JSON form. -/
theorem ofJson?_toJson (expression : Expression) :
    ofJson? expression.toJson = some expression := by
  cases expression with
  | literal value =>
      have decodes := value.ofJson?_toJson
      rw [toJson, ofJson?]
      simp [Json.stringField?, decodes]
  | field name =>
      rw [toJson, ofJson?]
      simp [Json.stringField?]
  | wildcard =>
      rw [toJson, ofJson?]
      simp [Json.stringField?]
  | call function arguments =>
      have decodes := listOfJson?_listToJson arguments
      rw [toJson, ofJson?]
      simp [Json.stringField?, decodes]
  | binary operator left right =>
      have decodes := operator.ofJson?_toJson
      have decodesLeft := left.ofJson?_toJson
      have decodesRight := right.ofJson?_toJson
      rw [toJson, ofJson?]
      simp [Json.stringField?, decodes, decodesLeft, decodesRight]
  | unary operator operand =>
      have decodes := operator.ofJson?_toJson
      have decodesOperand := operand.ofJson?_toJson
      rw [toJson, ofJson?]
      simp [Json.stringField?, decodes, decodesOperand]
  | member name values negated =>
      have decodes :
          Json.list? Literal.ofJson? (.array (values.map Literal.toJson)) = some values :=
        Json.list?_array fun value _ => value.ofJson?_toJson
      rw [toJson, ofJson?]
      simp [Json.stringField?, Json.booleanField?, Json.listField?, decodes]
  | matching name pattern negated =>
      rw [toJson, ofJson?]
      simp [Json.stringField?, Json.booleanField?]

theorem listOfJson?_listToJson (expressions : List Expression) :
    listOfJson? (listToJson expressions) = some expressions := by
  cases expressions with
  | nil => rw [listToJson, listOfJson?]
  | cons expression expressions =>
      rw [listToJson, listOfJson?, expression.ofJson?_toJson, listOfJson?_listToJson expressions]
      rfl

end

theorem listToJson_eq_map (expressions : List Expression) :
    listToJson expressions = expressions.map toJson := by
  induction expressions with
  | nil => rfl
  | cons expression expressions ih => rw [listToJson, ih, List.map_cons]

theorem toJson_ne_null (expression : Expression) : expression.toJson ≠ .null := by
  cases expression <;> exact Json.noConfusion

end Expression

theorem SelectItem.ofJson?_toJson (item : SelectItem) : ofJson? item.toJson = some item := by
  obtain ⟨function, arguments, aliasName⟩ := item
  have decodes :
      Json.list? Expression.ofJson? (.array (Expression.listToJson arguments)) =
        some arguments := by
    rw [Expression.listToJson_eq_map]
    exact Json.list?_array fun argument _ => argument.ofJson?_toJson
  have isFunction :
      (toJson ⟨function, arguments, aliasName⟩).stringField? "function" = some function :=
    rfl
  have areArguments :
      (toJson ⟨function, arguments, aliasName⟩).listField? Expression.ofJson? "args" =
        some arguments :=
    decodes
  have isAlias :
      (toJson ⟨function, arguments, aliasName⟩).optionField? Json.string? "alias" =
        some aliasName :=
    Json.optionField?_ofOption rfl (fun _ => rfl) fun _ => Json.noConfusion
  rw [ofJson?, isFunction, areArguments, isAlias]
  rfl

theorem TimeSpec.toJson_ne_null (spec : TimeSpec) : spec.toJson ≠ .null := by
  cases spec <;> exact Json.noConfusion

theorem Bucketing.toJson_ne_null (bucketing : Bucketing) : bucketing.toJson ≠ .null := by
  cases bucketing <;> exact Json.noConfusion

/-- A field that holds a point in time, or null, is decoded as it was encoded. -/
theorem Json.optionField?_timeSpec {json : Json} {name : String} {spec : Option TimeSpec}
    (isField : json.field? name = some (ofOption TimeSpec.toJson spec)) :
    json.optionField? TimeSpec.ofJson? name = some spec :=
  optionField?_ofOption isField TimeSpec.ofJson?_toJson TimeSpec.toJson_ne_null

/-- Every query is decoded from its JSON form. -/
theorem Query.ofJson?_toJson (query : Query) : ofJson? query.toJson = some query := by
  have isSelect : query.toJson.listField? SelectItem.ofJson? "select" = some query.select :=
    Json.list?_array fun item _ => item.ofJson?_toJson
  have areSources : query.toJson.listField? Json.string? "from" = some query.sources :=
    Json.list?_ofStrings query.sources
  have isCondition :
      query.toJson.optionField? Expression.ofJson? "where" = some query.condition :=
    Json.optionField?_ofOption rfl Expression.ofJson?_toJson Expression.toJson_ne_null
  have isFacet :
      query.toJson.optionField? (Json.list? Json.string?) "facet" = some query.facet :=
    Json.optionField?_ofOption rfl Json.list?_ofStrings fun _ => Json.noConfusion
  have isLimit : query.toJson.optionField? Json.uint64? "limit" = some query.limit :=
    Json.optionField?_ofOption rfl Json.uint64?_ofUInt64 fun _ => Json.noConfusion
  have isSince : query.toJson.optionField? TimeSpec.ofJson? "since" = some query.since :=
    Json.optionField?_timeSpec rfl
  have isUpTo : query.toJson.optionField? TimeSpec.ofJson? "until" = some query.upTo :=
    Json.optionField?_timeSpec rfl
  have isCompared :
      query.toJson.optionField? TimeSpec.ofJson? "compareWith" = some query.compareWith :=
    Json.optionField?_timeSpec rfl
  have isSeries :
      query.toJson.optionField? Bucketing.ofJson? "timeseries" = some query.timeseries :=
    Json.optionField?_ofOption rfl Bucketing.ofJson?_toJson Bucketing.toJson_ne_null
  rw [ofJson?, isSelect, areSources, isCondition, isFacet, isLimit, isSince, isUpTo, isCompared,
    isSeries]
  rfl

/-! ## What was encoded has a text -/

namespace Json

theorem isIntegerRange_iff {value : Int} :
    isIntegerRange value = true ↔ Int64.minValue.toInt ≤ value ∧ value < UInt64.size := by
  rw [isIntegerRange, Bool.and_eq_true, decide_eq_true_iff, decide_eq_true_iff]

theorem isExpressible_ofUInt64 (value : UInt64) : (ofUInt64 value).IsExpressible := by
  have least : Int64.minValue.toInt ≤ 0 := by decide
  refine .integer (isIntegerRange_iff.mpr ⟨?_, Int.ofNat_lt.mpr value.toNat_lt⟩)
  exact Int.le_trans least (Int.natCast_nonneg _)

theorem isExpressible_ofStrings (values : List String) : (ofStrings values).IsExpressible := by
  refine .array fun item isIn => ?_
  obtain ⟨value, _, rfl⟩ := List.mem_map.mp isIn
  exact .string value

theorem isExpressible_ofOption {α : Type} {encode : α → Json} {value : Option α}
    (areExpressible : ∀ each ∈ value, (encode each).IsExpressible) :
    (ofOption encode value).IsExpressible := by
  cases value with
  | none => exact .null
  | some value => exact areExpressible value rfl

/-- An object is expressible if the values of its fields are, one after the other. -/
theorem isExpressible_tagged {form : String} {fields : List (String × Json)}
    (areExpressible : ∀ field ∈ fields, field.2.IsExpressible) :
    (tagged form fields).IsExpressible :=
  .object (List.forall_mem_cons.mpr ⟨.string form, areExpressible⟩)

end Json

theorem Number.isExpressible_toJson {number : Number} (isFinite : number.isFinite = true) :
    number.toJson.IsExpressible := by
  cases number with
  | integer value =>
      have isAbove := value.minValue_le_toInt
      have isBelow := value.toInt_le
      refine .integer (Json.isIntegerRange_iff.mpr ⟨isAbove, Int.lt_of_le_of_lt isBelow ?_⟩)
      decide
  | float value => exact .float isFinite

theorem Literal.isExpressible_toJson {literal : Literal}
    (areFinite : ∀ number ∈ literal.numbers, number.isFinite = true) :
    literal.toJson.IsExpressible := by
  cases literal with
  | number value => exact Number.isExpressible_toJson (areFinite value List.mem_cons_self)
  | string value => exact .string value
  | boolean value => exact .boolean value

theorem TimeUnit.isExpressible_toJson (unit : TimeUnit) : unit.toJson.IsExpressible :=
  .string unit.name

theorem TimeSpec.isExpressible_toJson (spec : TimeSpec) : spec.toJson.IsExpressible := by
  cases spec with
  | ago amount unit =>
      refine Json.isExpressible_tagged ?_
      simp [Json.isExpressible_ofUInt64, TimeUnit.isExpressible_toJson, Json.IsExpressible.string]
  | anchor point =>
      refine Json.isExpressible_tagged ?_
      simp [Json.IsExpressible.string]
  | timestamp text =>
      refine Json.isExpressible_tagged ?_
      simp [Json.IsExpressible.string]

theorem Bucketing.isExpressible_toJson (bucketing : Bucketing) :
    bucketing.toJson.IsExpressible := by
  cases bucketing with
  | auto => exact Json.isExpressible_tagged (List.forall_mem_nil _)
  | every amount unit =>
      refine Json.isExpressible_tagged ?_
      simp [Json.isExpressible_ofUInt64, TimeUnit.isExpressible_toJson]

namespace Expression

mutual

/-- An expression with finite numbers is expressible. -/
theorem isExpressible_toJson (expression : Expression)
    (areFinite : ∀ number ∈ expression.numbers, number.isFinite = true) :
    expression.toJson.IsExpressible := by
  cases expression with
  | literal value =>
      rw [toJson]
      refine Json.isExpressible_tagged (List.forall_mem_singleton.mpr ?_)
      exact Literal.isExpressible_toJson areFinite
  | field name =>
      rw [toJson]
      exact Json.isExpressible_tagged (List.forall_mem_singleton.mpr (.string name))
  | wildcard =>
      rw [toJson]
      exact Json.isExpressible_tagged (List.forall_mem_nil _)
  | call function arguments =>
      rw [toJson]
      refine Json.isExpressible_tagged ?_
      refine List.forall_mem_cons.mpr ⟨.string function, List.forall_mem_singleton.mpr ?_⟩
      exact .array (isExpressible_listToJson arguments areFinite)
  | binary operator left right =>
      obtain ⟨leftFinite, rightFinite⟩ := List.forall_mem_append.mp areFinite
      rw [toJson]
      refine Json.isExpressible_tagged ?_
      refine List.forall_mem_cons.mpr ⟨.string operator.symbol, ?_⟩
      refine List.forall_mem_cons.mpr ⟨left.isExpressible_toJson leftFinite, ?_⟩
      exact List.forall_mem_singleton.mpr (right.isExpressible_toJson rightFinite)
  | unary operator operand =>
      rw [toJson]
      refine Json.isExpressible_tagged ?_
      refine List.forall_mem_cons.mpr ⟨.string operator.symbol, ?_⟩
      exact List.forall_mem_singleton.mpr (operand.isExpressible_toJson areFinite)
  | member name values negated =>
      have valuesExpressible : ∀ item ∈ values.map Literal.toJson, item.IsExpressible := by
        intro item isIn
        obtain ⟨value, isValue, rfl⟩ := List.mem_map.mp isIn
        refine Literal.isExpressible_toJson fun number isNumber => areFinite number ?_
        exact List.mem_flatMap.mpr ⟨value, isValue, isNumber⟩
      rw [toJson]
      refine Json.isExpressible_tagged ?_
      refine List.forall_mem_cons.mpr ⟨.string name, ?_⟩
      refine List.forall_mem_cons.mpr ⟨.array valuesExpressible, ?_⟩
      exact List.forall_mem_singleton.mpr (.boolean negated)
  | matching name pattern negated =>
      rw [toJson]
      refine Json.isExpressible_tagged ?_
      refine List.forall_mem_cons.mpr ⟨.string name, ?_⟩
      refine List.forall_mem_cons.mpr ⟨.string pattern, ?_⟩
      exact List.forall_mem_singleton.mpr (.boolean negated)

theorem isExpressible_listToJson (expressions : List Expression)
    (areFinite : ∀ number ∈ listNumbers expressions, number.isFinite = true) :
    ∀ item ∈ listToJson expressions, item.IsExpressible := by
  cases expressions with
  | nil => exact List.forall_mem_nil _
  | cons expression expressions =>
      obtain ⟨isFinite, othersFinite⟩ := List.forall_mem_append.mp areFinite
      rw [listToJson]
      exact
        List.forall_mem_cons.mpr
          ⟨expression.isExpressible_toJson isFinite,
            isExpressible_listToJson expressions othersFinite⟩

end

end Expression

theorem SelectItem.isExpressible_toJson {item : SelectItem}
    (areFinite : ∀ number ∈ Expression.listNumbers item.arguments, number.isFinite = true) :
    item.toJson.IsExpressible := by
  have arguments := Expression.isExpressible_listToJson item.arguments areFinite
  have aliasName : (Json.ofOption .string item.aliasName).IsExpressible :=
    Json.isExpressible_ofOption fun name _ => .string name
  refine .object (List.forall_mem_cons.mpr ⟨.string item.function, ?_⟩)
  exact List.forall_mem_cons.mpr ⟨.array arguments, List.forall_mem_singleton.mpr aliasName⟩

/-- A query with finite numbers is expressible. -/
theorem Query.isExpressible_toJson {query : Query}
    (areFinite : ∀ number ∈ query.numbers, number.isFinite = true) :
    query.toJson.IsExpressible := by
  obtain ⟨selectFinite, conditionFinite⟩ := List.forall_mem_append.mp areFinite
  have select : ∀ item ∈ query.select.map SelectItem.toJson, item.IsExpressible := by
    intro encoded isIn
    obtain ⟨item, isItem, rfl⟩ := List.mem_map.mp isIn
    refine SelectItem.isExpressible_toJson fun number isNumber => selectFinite number ?_
    exact List.mem_flatMap.mpr ⟨item, isItem, isNumber⟩
  have condition : (Json.ofOption Expression.toJson query.condition).IsExpressible := by
    refine Json.isExpressible_ofOption fun expression isCondition => ?_
    refine expression.isExpressible_toJson fun number isNumber => conditionFinite number ?_
    exact List.mem_flatMap.mpr ⟨expression, Option.mem_toList.mpr isCondition, isNumber⟩
  have facet : (Json.ofOption Json.ofStrings query.facet).IsExpressible :=
    Json.isExpressible_ofOption fun names _ => Json.isExpressible_ofStrings names
  have limit : (Json.ofOption Json.ofUInt64 query.limit).IsExpressible :=
    Json.isExpressible_ofOption fun amount _ => Json.isExpressible_ofUInt64 amount
  have time (spec : Option TimeSpec) : (Json.ofOption TimeSpec.toJson spec).IsExpressible :=
    Json.isExpressible_ofOption fun each _ => each.isExpressible_toJson
  have timeseries : (Json.ofOption Bucketing.toJson query.timeseries).IsExpressible :=
    Json.isExpressible_ofOption fun each _ => each.isExpressible_toJson
  refine .object ?_
  simp only [List.forall_mem_cons]
  exact
    ⟨.array select, Json.isExpressible_ofStrings query.sources, condition, facet, limit,
      time query.since, time query.upTo, time query.compareWith, timeseries,
      List.forall_mem_nil _⟩

end EventQuery
