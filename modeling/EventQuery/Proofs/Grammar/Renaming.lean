import EventQuery.Proofs.Grammar.Acceptance
import EventQuery.Proofs.Query.WellFormed

/-!
# Other names in the place of names

The grammar looks at a name only to keep it.  So where tokens are a query, and some of
its names are replaced by others, the tokens are the query with the other names:
`TokenStream.query_renamed`.  There is one exception.  The function of a call in a column,
outside of the arguments of calls, must not be named like an arithmetic operator.
-/

namespace EventQuery

/-! ## Trees with other names -/

namespace Expression

mutual

/-- An expression with other names. -/
def renamed (rename : String → String) : Expression → Expression
  | literal value => literal value
  | field name => field (rename name)
  | wildcard => wildcard
  | call function arguments => call (rename function) (listRenamed rename arguments)
  | binary operator left right => binary operator (left.renamed rename) (right.renamed rename)
  | unary operator operand => unary operator (operand.renamed rename)
  | member name values negated => member (rename name) values negated
  | matching name pattern negated => matching (rename name) pattern negated

/-- Expressions with other names. -/
def listRenamed (rename : String → String) : List Expression → List Expression
  | [] => []
  | first :: others => first.renamed rename :: listRenamed rename others

end

/-- The functions of the calls that arithmetic is made of, without those in arguments. -/
def callees : Expression → List String
  | call function _ => [function]
  | unary .negate operand => operand.callees
  | binary (.arithmetic _) left right => left.callees ++ right.callees
  | _ => []

variable {rename : String → String}

theorem isCondition_renamed (rename : String → String) (expression : Expression) :
    (expression.renamed rename).isCondition = expression.isCondition := by
  fun_induction isCondition expression <;> simp_all [renamed, isCondition]

theorem joinsConditions_renamed (rename : String → String) :
    ∀ expression : Expression,
      (expression.renamed rename).joinsConditions = expression.joinsConditions
  | .binary (.logical _) left right => by
      simp only [renamed, joinsConditions, isCondition_renamed,
        joinsConditions_renamed rename left, joinsConditions_renamed rename right]
  | .binary (.comparison _) left _ | .binary (.arithmetic _) left _ => by
      simp only [renamed, joinsConditions, joinsConditions_renamed rename left]
  | .unary .not operand => by
      simp only [renamed, joinsConditions, isCondition_renamed,
        joinsConditions_renamed rename operand]
  | .unary .negate _ | .literal _ | .field _ | .wildcard | .call _ _ | .member _ _ _
  | .matching _ _ _ =>
      rfl

/-- Other names make no constant of anything. -/
theorem renamed_eq_literal_iff {expression : Expression} {value : Literal} :
    expression.renamed rename = .literal value ↔ expression = .literal value := by
  cases expression <;> simp [renamed]

theorem CallArithmetic.renamed {expression : Expression} {hasCall : Bool}
    (arithmetic : expression.CallArithmetic hasCall)
    (isAllowed :
      ∀ function ∈ expression.callees,
        rename function = function ∨ ∀ operator : Arithmetic, rename function ≠ operator.symbol) :
    (expression.renamed rename).CallArithmetic hasCall := by
  induction arithmetic with
  | call isNoOperator =>
      refine .call ?_
      rcases isAllowed _ List.mem_cons_self with isSame | isNoOperator
      · rwa [isSame]
      · exact isNoOperator
  | number => exact .number
  | negate _ ih => exact .negate (ih isAllowed)
  | arithmetic _ _ leftIh rightIh =>
      obtain ⟨left, right⟩ := List.forall_mem_append.mp isAllowed
      exact .arithmetic (leftIh left) (rightIh right)

end Expression

/-- A column with other names; an operator on top keeps its symbol. -/
def SelectItem.renamed (rename : String → String) (item : SelectItem) : SelectItem where
  function := if item.operator?.isSome then item.function else rename item.function
  arguments := Expression.listRenamed rename item.arguments
  aliasName := item.aliasName.map rename

/-- A query with other names. -/
def Query.renamed (rename : String → String) (query : Query) : Query :=
  { query with
    select := query.select.map (SelectItem.renamed rename)
    sources := query.sources.map rename
    condition := query.condition.map (Expression.renamed rename)
    facet := query.facet.map (List.map rename) }

namespace Grammar

/-! ## Tokens with other names -/

/-- Other names for names, and other tokens for tokens. -/
structure Exchange where
  name : String → String
  token : Token → Token

namespace Exchange

/--
How a token may be replaced.  Either it stays, and so does what it can name; or it is a
quoted name, and the other token stands for the other name.
-/
inductive Fits (exchange : Exchange) (token : Token) : Prop where
  | stays
      (isSame : exchange.token token = token)
      (keepsName :
        ∀ name, token.name? = some name ∨ token.string? = some name →
          exchange.name name = name)
  | changes {name : String}
      (isQuoted : token.content = .name name true)
      (isNoBoolean : (exchange.token token).boolean? = none)
      (means : (exchange.token token).name? = some (exchange.name name))

variable {exchange : Exchange} {token : Token}

/-- Only quoted names are replaced. -/
theorem Fits.isKept {content : TokenContent}
    (fits : exchange.Fits token)
    (isContent : token.content = content)
    (isNoName : ∀ name, content ≠ .name name true) :
    exchange.token token = token := by
  cases fits with
  | stays isSame _ => exact isSame
  | changes isQuoted => exact absurd (isContent.symm.trans isQuoted) (isNoName _)

theorem Fits.name? {name : String}
    (fits : exchange.Fits token)
    (means : token.name? = some name) :
    (exchange.token token).name? = some (exchange.name name) := by
  cases fits with
  | stays isSame keepsName => rw [isSame, keepsName name (Or.inl means), means]
  | changes isQuoted _ meansOther =>
      rw [Token.name?, isQuoted] at means
      cases means
      exact meansOther

theorem Fits.string? {value : String}
    (fits : exchange.Fits token)
    (means : token.string? = some value) :
    (exchange.token token).string? = some (exchange.name value) := by
  cases fits with
  | stays isSame keepsName => rw [isSame, keepsName value (Or.inr means), means]
  | changes isQuoted =>
      rw [Token.string?, isQuoted] at means
      cases means

theorem Fits.boolean?
    (fits : exchange.Fits token)
    (isNoBoolean : token.boolean? = none) :
    (exchange.token token).boolean? = none := by
  cases fits with
  | stays isSame _ => rw [isSame, isNoBoolean]
  | changes _ isNoBoolean _ => exact isNoBoolean

theorem Fits.isKept_of_boolean? {value : Bool}
    (fits : exchange.Fits token)
    (means : token.boolean? = some value) :
    exchange.token token = token := by
  obtain ⟨name, isName⟩ := Token.exists_name_of_boolean? means
  exact fits.isKept isName (by simp)

end Exchange

/-- All tokens may be replaced. -/
def Exchange.FitsAll (exchange : Exchange) (tokens : List Token) : Prop :=
  ∀ token ∈ tokens, exchange.Fits token

variable {exchange : Exchange}

theorem fitsAll_append_iff {first second : List Token} :
    exchange.FitsAll (first ++ second) ↔ exchange.FitsAll first ∧ exchange.FitsAll second :=
  List.forall_mem_append

theorem fitsAll_cons_iff {token : Token} {tokens : List Token} :
    exchange.FitsAll (token :: tokens) ↔ exchange.Fits token ∧ exchange.FitsAll tokens :=
  List.forall_mem_cons

/-- Tokens that stay as they are. -/
theorem map_eq_self {tokens : List Token}
    (areKept : ∀ token ∈ tokens, exchange.token token = token) :
    tokens.map exchange.token = tokens :=
  (List.map_congr_left areKept).trans (List.map_id' tokens)

/-- One token that is no quoted name stays as it is. -/
theorem map_singleton_eq_self {token : Token} {content : TokenContent}
    (fits : exchange.FitsAll [token])
    (isContent : token.content = content)
    (isNoName : ∀ name, content ≠ .name name true) :
    [token].map exchange.token = [token] := by
  rw [List.map_singleton, (fits token List.mem_cons_self).isKept isContent isNoName]

/-! ## Phrases without names -/

theorem isKept_of_literalPhrase {tokens : List Token} {value : Literal}
    (phrase : LiteralPhrase tokens value)
    (fits : exchange.FitsAll tokens) :
    ∀ token ∈ tokens, exchange.token token = token := by
  intro token isIn
  have tokenFits := fits token isIn
  cases phrase with
  | string means =>
      obtain rfl := List.mem_singleton.mp isIn
      exact tokenFits.isKept means (by simp)
  | number means =>
      obtain rfl := List.mem_singleton.mp isIn
      exact tokenFits.isKept means (by simp)
  | boolean means =>
      obtain rfl := List.mem_singleton.mp isIn
      exact tokenFits.isKept_of_boolean? means
  | opposite isMinus means =>
      rcases List.mem_cons.mp isIn with rfl | isNumber
      · exact tokenFits.isKept isMinus (by simp)
      · obtain rfl := List.mem_singleton.mp isNumber
        exact tokenFits.isKept means (by simp)

theorem isKept_of_literals {tokens : List Token} {values : List Literal}
    (literals : Separated LiteralPhrase tokens values)
    (fits : exchange.FitsAll tokens) :
    ∀ token ∈ tokens, exchange.token token = token := by
  induction literals with
  | last item => exact isKept_of_literalPhrase item fits
  | more item isComma _ ih =>
      obtain ⟨itemFits, laterFits⟩ := fitsAll_append_iff.mp fits
      obtain ⟨commaFits, restFits⟩ := fitsAll_cons_iff.mp laterFits
      exact
        List.forall_mem_append.mpr
          ⟨isKept_of_literalPhrase item itemFits,
            List.forall_mem_cons.mpr ⟨commaFits.isKept isComma (by simp), ih restFits⟩⟩

theorem map_eq_self_of_maybeNot {negated : Bool} {words : List Token}
    (mayNegate : MaybeNot negated words)
    (fits : exchange.FitsAll words) :
    words.map exchange.token = words := by
  cases mayNegate with
  | plain => rfl
  | negated isNot =>
      rw [map_singleton_eq_self fits isNot (by simp)]

/-- A test holds no name but the one of the attribute in front of it. -/
theorem TestPhrase.renamed {name : String} {tokens : List Token} {expression : Expression}
    (test : TestPhrase name tokens expression)
    (fits : exchange.FitsAll tokens) :
    TestPhrase (exchange.name name) (tokens.map exchange.token)
      (expression.renamed exchange.name) := by
  cases test with
  | membership mayNegate isIn opens literals closes =>
      obtain ⟨wordsFit, laterFit⟩ := fitsAll_append_iff.mp fits
      obtain ⟨wordFits, laterFit⟩ := fitsAll_cons_iff.mp laterFit
      obtain ⟨openingFits, laterFit⟩ := fitsAll_cons_iff.mp laterFit
      obtain ⟨literalsFit, closingFits⟩ := fitsAll_append_iff.mp laterFit
      rw [List.map_append, List.map_cons, List.map_cons, List.map_append,
        map_eq_self_of_maybeNot mayNegate wordsFit, wordFits.isKept isIn (by simp),
        openingFits.isKept opens (by simp), map_eq_self (isKept_of_literals literals literalsFit),
        map_singleton_eq_self closingFits closes (by simp)]
      exact .membership mayNegate isIn opens literals closes
  | pattern mayNegate isLike means =>
      obtain ⟨wordsFit, laterFit⟩ := fitsAll_append_iff.mp fits
      obtain ⟨wordFits, patternFits⟩ := fitsAll_cons_iff.mp laterFit
      rw [List.map_append, List.map_cons, map_eq_self_of_maybeNot mayNegate wordsFit,
        wordFits.isKept isLike (by simp),
        map_singleton_eq_self patternFits means (by simp)]
      exact .pattern mayNegate isLike means

/-! ## Expressions -/

mutual

/-- Tokens with other names are a phrase of the expression with the other names. -/
theorem Phrase.renamed {nesting : Nat} {level : Level} {tokens : List Token}
    {expression : Expression} :
    Phrase nesting level tokens expression → exchange.FitsAll tokens →
      Phrase nesting level (tokens.map exchange.token) (expression.renamed exchange.name)
  | .loosen inner, fits => .loosen (inner.renamed fits)
  | .star isStar, fits => by
      rw [map_singleton_eq_self fits isStar (by simp)]
      exact .star isStar
  | .connected left isWord right, fits => by
      obtain ⟨leftFits, laterFit⟩ := fitsAll_append_iff.mp fits
      obtain ⟨wordFits, rightFits⟩ := fitsAll_cons_iff.mp laterFit
      rw [List.map_append, List.map_cons, wordFits.isKept isWord (by simp)]
      exact .connected (left.renamed leftFits) isWord (right.renamed rightFits)
  | .negation isNot inner, fits => by
      obtain ⟨wordFits, innerFits⟩ := fitsAll_cons_iff.mp fits
      rw [List.map_cons, wordFits.isKept isNot (by simp)]
      exact .negation isNot (inner.renamed innerFits)
  | .compared left isSign right, fits => by
      obtain ⟨leftFits, laterFit⟩ := fitsAll_append_iff.mp fits
      obtain ⟨signFits, rightFits⟩ := fitsAll_cons_iff.mp laterFit
      rw [List.map_append, List.map_cons, signFits.isKept isSign (by simp)]
      exact .compared (left.renamed leftFits) isSign (right.renamed rightFits)
  | .tested field test, fits => by
      obtain ⟨fieldFits, testFits⟩ := fitsAll_append_iff.mp fits
      rw [List.map_append]
      exact .tested (field.renamed fieldFits) (test.renamed testFits)
  | .computed left isSign right, fits => by
      obtain ⟨leftFits, laterFit⟩ := fitsAll_append_iff.mp fits
      obtain ⟨signFits, rightFits⟩ := fitsAll_cons_iff.mp laterFit
      rw [List.map_append, List.map_cons, signFits.isKept isSign (by simp)]
      exact .computed (left.renamed leftFits) isSign (right.renamed rightFits)
  | .opposite isMinus inner isOpposite, fits => by
      obtain ⟨signFits, innerFits⟩ := fitsAll_cons_iff.mp fits
      rw [List.map_cons, signFits.isKept isMinus (by simp)]
      exact .opposite isMinus (inner.renamed innerFits) isOpposite
  | .minus isMinus inner hasNoOpposite, fits => by
      obtain ⟨signFits, innerFits⟩ := fitsAll_cons_iff.mp fits
      rw [List.map_cons, signFits.isKept isMinus (by simp)]
      -- The operand is a constant only where it was one, which the minus could not join.
      refine .minus isMinus (inner.renamed innerFits) fun value isLiteral => ?_
      exact hasNoOpposite value (Expression.renamed_eq_literal_iff.mp isLiteral)
  | .number means, fits => by
      rw [map_singleton_eq_self fits means (by simp)]
      exact .number means
  | .string means, fits => by
      rw [map_singleton_eq_self fits means (by simp)]
      exact .string means
  | .boolean means, fits => by
      rw [List.map_singleton, (fits _ List.mem_cons_self).isKept_of_boolean? means]
      exact .boolean means
  | .field isNoBoolean means, fits =>
      .field ((fits _ List.mem_cons_self).boolean? isNoBoolean)
        ((fits _ List.mem_cons_self).name? means)
  | .emptyCall isNoBoolean means opens closes, fits => by
      obtain ⟨nameFits, laterFit⟩ := fitsAll_cons_iff.mp fits
      obtain ⟨openingFits, closingFits⟩ := fitsAll_cons_iff.mp laterFit
      rw [List.map_cons, List.map_cons, openingFits.isKept opens (by simp),
        map_singleton_eq_self closingFits closes (by simp)]
      exact
        .emptyCall (nameFits.boolean? isNoBoolean) (nameFits.name? means) opens closes
  | .call isNoBoolean means opens inner closes, fits => by
      obtain ⟨nameFits, laterFit⟩ := fitsAll_cons_iff.mp fits
      obtain ⟨openingFits, laterFit⟩ := fitsAll_cons_iff.mp laterFit
      obtain ⟨innerFits, closingFits⟩ := fitsAll_append_iff.mp laterFit
      rw [List.map_cons, List.map_cons, List.map_append, openingFits.isKept opens (by simp),
        map_singleton_eq_self closingFits closes (by simp)]
      exact
        .call (nameFits.boolean? isNoBoolean) (nameFits.name? means) opens
          (inner.renamed innerFits) closes
  | .group opens inner closes, fits => by
      obtain ⟨openingFits, laterFit⟩ := fitsAll_cons_iff.mp fits
      obtain ⟨innerFits, closingFits⟩ := fitsAll_append_iff.mp laterFit
      rw [List.map_cons, List.map_append, openingFits.isKept opens (by simp),
        map_singleton_eq_self closingFits closes (by simp)]
      exact .group opens (inner.renamed innerFits) closes

theorem Arguments.renamed {nesting : Nat} {tokens : List Token} {values : List Expression} :
    Arguments nesting tokens values → exchange.FitsAll tokens →
      Arguments nesting (tokens.map exchange.token)
        (Expression.listRenamed exchange.name values)
  | .last item, fits => .last (item.renamed fits)
  | .more item isComma rest, fits => by
      obtain ⟨itemFits, laterFit⟩ := fitsAll_append_iff.mp fits
      obtain ⟨commaFits, restFits⟩ := fitsAll_cons_iff.mp laterFit
      rw [List.map_append, List.map_cons, commaFits.isKept isComma (by simp)]
      exact .more (item.renamed itemFits) isComma (rest.renamed restFits)

end

/-! ## Clauses -/

theorem Separated.renamed {α : Type} {Item Other : List Token → α → Prop} {change : α → α}
    {tokens : List Token} {values : List α}
    (separated : Separated Item tokens values)
    (fits : exchange.FitsAll tokens)
    (items :
      ∀ tokens value, value ∈ values → Item tokens value → exchange.FitsAll tokens →
        Other (tokens.map exchange.token) (change value)) :
    Separated Other (tokens.map exchange.token) (values.map change) := by
  induction separated with
  | last item => exact .last (items _ _ List.mem_cons_self item fits)
  | more item isComma _ ih =>
      obtain ⟨itemFits, laterFit⟩ := fitsAll_append_iff.mp fits
      obtain ⟨commaFits, restFits⟩ := fitsAll_cons_iff.mp laterFit
      rw [List.map_append, List.map_cons, commaFits.isKept isComma (by simp)]
      refine .more (items _ _ List.mem_cons_self item itemFits) isComma (ih restFits ?_)
      exact fun tokens value isIn => items tokens value (List.mem_cons_of_mem _ isIn)

theorem NamePhrase.renamed {tokens : List Token} {name : String}
    (phrase : NamePhrase tokens name)
    (fits : exchange.FitsAll tokens) :
    NamePhrase (tokens.map exchange.token) (exchange.name name) := by
  obtain ⟨means⟩ := phrase
  exact .name ((fits _ List.mem_cons_self).name? means)

theorem names_renamed {tokens : List Token} {names : List String}
    (phrase : Separated NamePhrase tokens names)
    (fits : exchange.FitsAll tokens) :
    Separated NamePhrase (tokens.map exchange.token) (names.map exchange.name) :=
  phrase.renamed fits fun _ _ _ name nameFits => name.renamed nameFits

/--
A function in a column, outside of the arguments of calls, gets no operator as its name.
-/
def Exchange.FitsColumn (exchange : Exchange) (item : SelectItem) : Prop :=
  ∀ function ∈ item.expression.callees,
    exchange.name function = function ∨
      ∀ operator : Arithmetic, exchange.name function ≠ operator.symbol

/-- What a column computes with other names. -/
theorem renamed_computes {expression : Expression} {function : String}
    {arguments : List Expression} {hasCall : Bool}
    (arithmetic : expression.CallArithmetic hasCall)
    (computes : expression.Computes function arguments)
    (aliasName : Option String) :
    (expression.renamed exchange.name).Computes
      (SelectItem.renamed exchange.name ⟨function, arguments, aliasName⟩).function
      (Expression.listRenamed exchange.name arguments) := by
  -- The symbol of an operator on top is no name, and only a function may get another one.
  rcases computes.isCall_or_isOperator with rfl | ⟨operator, left, right, rfl, rfl, rfl⟩
  · cases arithmetic with
    | call isNoOperator =>
        rw [SelectItem.renamed, SelectItem.operator?_eq_none isNoOperator]
        exact .call
  · rw [SelectItem.renamed, SelectItem.operator?_of_symbol]
    exact .operator

theorem ColumnPhrase.renamed {nesting : Nat} {tokens : List Token} {item : SelectItem}
    (phrase : ColumnPhrase nesting tokens item)
    (fits : exchange.FitsAll tokens)
    (isAllowed : exchange.FitsColumn item) :
    ColumnPhrase nesting (tokens.map exchange.token) (item.renamed exchange.name) := by
  cases phrase with
  | unnamed phrase arithmetic computes =>
      rw [Exchange.FitsColumn, SelectItem.expression_eq_of_computes arithmetic computes]
        at isAllowed
      exact
        .unnamed (phrase.renamed fits) (arithmetic.renamed isAllowed)
          (renamed_computes arithmetic computes none)
  | @named tokens word token expression function name arguments phrase arithmetic computes
      isAs means =>
      rw [Exchange.FitsColumn, SelectItem.expression_eq_of_computes arithmetic computes]
        at isAllowed
      obtain ⟨phraseFits, laterFit⟩ := fitsAll_append_iff.mp fits
      obtain ⟨wordFits, aliasFits⟩ := fitsAll_cons_iff.mp laterFit
      have aliasFits := aliasFits _ List.mem_cons_self
      rw [List.map_append, List.map_cons, List.map_singleton, wordFits.isKept isAs (by simp)]
      refine
        .named (phrase.renamed phraseFits) (arithmetic.renamed isAllowed)
          (renamed_computes arithmetic computes (some name)) isAs ?_
      rcases means with means | means
      · exact Or.inl (aliasFits.string? means)
      · exact Or.inr (aliasFits.name? means)

theorem ConditionPhrase.renamed {nesting : Nat} {tokens : List Token} {expression : Expression}
    (phrase : ConditionPhrase nesting tokens expression)
    (fits : exchange.FitsAll tokens) :
    ConditionPhrase nesting (tokens.map exchange.token)
      (expression.renamed exchange.name) where
  phrase := phrase.phrase.renamed fits
  isCondition := (Expression.isCondition_renamed _ _).trans phrase.isCondition
  joinsConditions := (Expression.joinsConditions_renamed _ _).trans phrase.joinsConditions

/-! ## Phrases without names, behind the condition -/

theorem Exchange.Fits.isKept_of_amount? {token : Token} {amount : UInt64}
    (fits : exchange.Fits token)
    (means : token.amount? = some amount) :
    exchange.token token = token := by
  obtain ⟨value, isNumber⟩ := exists_number_of_amount? means
  exact fits.isKept isNumber (by simp)

theorem Exchange.Fits.isKept_of_timeUnit? {token : Token} {unit : TimeUnit}
    (fits : exchange.Fits token)
    (means : token.timeUnit? = some unit) :
    exchange.token token = token :=
  fits.isKept (Token.timeUnit?_eq_some_iff.mp means) (by simp)

theorem AmountPhrase.renamed {tokens : List Token} {amount : UInt64}
    (phrase : AmountPhrase tokens amount)
    (fits : exchange.FitsAll tokens) :
    AmountPhrase (tokens.map exchange.token) amount := by
  obtain ⟨means⟩ := phrase
  rw [List.map_singleton, (fits _ List.mem_cons_self).isKept_of_amount? means]
  exact .amount means

theorem TimePhrase.renamed {tokens : List Token} {spec : TimeSpec}
    (phrase : TimePhrase tokens spec)
    (fits : exchange.FitsAll tokens) :
    TimePhrase (tokens.map exchange.token) spec := by
  cases phrase with
  | anchor means =>
      rw [map_singleton_eq_self fits means (by simp)]
      exact .anchor means
  | timestamp means =>
      rw [map_singleton_eq_self fits means (by simp)]
      exact .timestamp means
  | ago means meansUnit isAgo =>
      obtain ⟨amountFits, laterFit⟩ := fitsAll_cons_iff.mp fits
      obtain ⟨unitFits, wordFits⟩ := fitsAll_cons_iff.mp laterFit
      rw [List.map_cons, List.map_cons, amountFits.isKept_of_amount? means,
        unitFits.isKept_of_timeUnit? meansUnit,
        map_singleton_eq_self wordFits isAgo (by simp)]
      exact .ago means meansUnit isAgo

theorem BucketPhrase.renamed {tokens : List Token} {bucketing : Bucketing}
    (phrase : BucketPhrase tokens bucketing)
    (fits : exchange.FitsAll tokens) :
    BucketPhrase (tokens.map exchange.token) bucketing := by
  cases phrase with
  | auto means =>
      rw [map_singleton_eq_self fits means (by simp)]
      exact .auto means
  | every means meansUnit =>
      obtain ⟨amountFits, unitFits⟩ := fitsAll_cons_iff.mp fits
      rw [List.map_cons, List.map_singleton, amountFits.isKept_of_amount? means,
        (unitFits _ List.mem_cons_self).isKept_of_timeUnit? meansUnit]
      exact .every means meansUnit

/-! ## Queries -/

theorem OptionalPhrase.renamed {α : Type} {keywords : List Keyword}
    {Body : List Token → α → Prop} {change : α → α} {tokens : List Token} {value : Option α}
    (phrase : OptionalPhrase keywords Body tokens value)
    (fits : exchange.FitsAll tokens)
    (bodies :
      ∀ tokens value, Body tokens value → exchange.FitsAll tokens →
        Body (tokens.map exchange.token) (change value)) :
    OptionalPhrase keywords Body (tokens.map exchange.token) (value.map change) := by
  cases phrase with
  | absent => exact .absent
  | @present heading tokens value introduces body =>
      obtain ⟨headingFits, bodyFits⟩ := fitsAll_append_iff.mp fits
      have isHeading : heading.map exchange.token = heading := by
        refine map_eq_self fun token isIn => ?_
        have isWord : token.content ∈ keywords.map TokenContent.keyword :=
          introduces ▸ List.mem_map_of_mem isIn
        obtain ⟨word, _, isContent⟩ := List.mem_map.mp isWord
        exact (headingFits token isIn).isKept isContent.symm (by simp)
      rw [List.map_append, isHeading]
      exact .present introduces (bodies _ _ body bodyFits)

/-- A clause without names stays as it is. -/
theorem OptionalPhrase.kept {α : Type} {keywords : List Keyword}
    {Body : List Token → α → Prop} {tokens : List Token} {value : Option α}
    (phrase : OptionalPhrase keywords Body tokens value)
    (fits : exchange.FitsAll tokens)
    (bodies :
      ∀ tokens value, Body tokens value → exchange.FitsAll tokens →
        Body (tokens.map exchange.token) value) :
    OptionalPhrase keywords Body (tokens.map exchange.token) value := by
  have phrase : OptionalPhrase keywords Body (tokens.map exchange.token) (value.map id) :=
    phrase.renamed fits bodies
  rwa [Option.map_id_fun] at phrase

/-- Tokens with other names are a query with the other names. -/
theorem QueryPhrase.renamed {nesting : Nat} {tokens : List Token} {query : Query}
    (phrase : QueryPhrase nesting tokens query)
    (fits : exchange.FitsAll tokens)
    (areAllowed : ∀ item ∈ query.select, exchange.FitsColumn item) :
    QueryPhrase nesting (tokens.map exchange.token) (query.renamed exchange.name) := by
  obtain ⟨isSelect, selectPhrase, isFrom, sourcesPhrase, clausePhrases⟩ := phrase
  obtain ⟨selectWordFits, laterFit⟩ := fitsAll_cons_iff.mp fits
  obtain ⟨selectFits, laterFit⟩ := fitsAll_append_iff.mp laterFit
  obtain ⟨fromWordFits, laterFit⟩ := fitsAll_cons_iff.mp laterFit
  obtain ⟨sourcesFit, clausesFit⟩ := fitsAll_append_iff.mp laterFit
  rw [List.map_cons, List.map_append, List.map_cons, List.map_append,
    selectWordFits.isKept isSelect (by simp), fromWordFits.isKept isFrom (by simp)]
  refine
    .query isSelect ?_ isFrom (names_renamed sourcesPhrase sourcesFit) ?_
  · exact
      selectPhrase.renamed selectFits fun _ item isItem column columnFits =>
        column.renamed columnFits (areAllowed item isItem)
  · obtain ⟨condition, facet, limit, since, upTo, compareWith, timeseries⟩ := clausePhrases
    simp only [fitsAll_append_iff] at clausesFit
    obtain ⟨⟨⟨⟨⟨⟨conditionFits, facetFits⟩, limitFits⟩, sinceFits⟩, upToFits⟩, compareFits⟩,
      timeseriesFits⟩ := clausesFit
    simp only [List.map_append]
    exact
      .clauses (condition.renamed conditionFits fun _ _ body => body.renamed)
        (facet.renamed facetFits fun _ _ => names_renamed)
        (limit.kept limitFits fun _ _ body => body.renamed)
        (since.kept sinceFits fun _ _ body => body.renamed)
        (upTo.kept upToFits fun _ _ body => body.renamed)
        (compareWith.kept compareFits fun _ _ body => body.renamed)
        (timeseries.kept timeseriesFits fun _ _ body => body.renamed)

end Grammar

open Grammar

/-- A stream with other names is read as the query with the other names. -/
theorem TokenStream.query_renamed {exchange : Exchange} {stream : TokenStream}
    {maxDepth : Nat} {query : Query}
    (isErrorFree : stream.IsErrorFree)
    (fits : exchange.FitsAll stream.tokens)
    (areAllowed : ∀ item ∈ query.select, exchange.FitsColumn item)
    (reads : stream.query maxDepth = .ok query) :
    TokenStream.query ⟨stream.tokens.map exchange.token, stream.ending⟩ maxDepth =
      .ok (query.renamed exchange.name) := by
  have phrase := ((query_eq_ok_iff isErrorFree).mp reads).renamed fits areAllowed
  have staysErrorFree :
      (TokenStream.mk (stream.tokens.map exchange.token) stream.ending).IsErrorFree := by
    refine ⟨isErrorFree.endsWell, fun token isIn => ?_⟩
    obtain ⟨before, isBefore, rfl⟩ := List.mem_map.mp isIn
    cases fits before isBefore with
    | stays isSame _ =>
        rw [isSame]
        exact isErrorFree.isUnended before isBefore
    | changes _ _ means =>
        intro isEnd
        rw [Token.name?, isEnd] at means
        cases means
  exact (query_eq_ok_iff staysErrorFree).mpr phrase

end EventQuery
