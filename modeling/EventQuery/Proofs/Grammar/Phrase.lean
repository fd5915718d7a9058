import EventQuery.Proofs.Expression.Shape
import EventQuery.Proofs.Token.Meaning
import EventQuery.Query

/-!
# The grammar of queries

The grammar as relations between a run of tokens and what the run says.  The
relations know nothing of readers: they say which runs are phrases, not how to
find the phrase at a place or where it ends.

Expressions have levels.  A phrase of a tight level is also one of every looser
level, binary levels are left recursive, and parentheses turn the loosest level
into the tightest.  The number in front of a level bounds the nesting: every
group, call, negation and minus sign takes one from it.
-/

namespace EventQuery.Grammar

/-- The levels of expressions, loosest first. -/
inductive Level where
  /-- An argument of a call: an expression, or the star that stands for itself. -/
  | argument
  | disjunction
  | conjunction
  | negation
  | comparison
  | sum
  | product
  /-- An operand with any number of minus signs in front. -/
  | signed
  | primary
deriving DecidableEq

namespace Level

/-- The next tighter level, of which every phrase is a phrase of this level. -/
def tighter : Level → Level
  | argument => disjunction
  | disjunction => conjunction
  | conjunction => negation
  | negation => comparison
  | comparison => sum
  | sum => product
  | product => signed
  | signed => primary
  | primary => primary

/-- How tightly the phrases of a level bind. -/
def strength : Level → Nat
  | argument => 0
  | disjunction => 1
  | conjunction => 2
  | negation => 3
  | comparison => 4
  | sum => 5
  | product => 6
  | signed => 7
  | primary => 8

/-- The level of the phrases that a connective makes. -/
def ofConnective : Connective → Level
  | .or => disjunction
  | .and => conjunction

/-- The keyword of a connective. -/
def connectiveKeyword : Connective → Keyword
  | .or => .orWord
  | .and => .andWord

/-- The level of the phrases that an arithmetic operator makes. -/
def ofArithmetic : Arithmetic → Level
  | .add => sum
  | .subtract => sum
  | .multiply => product
  | .divide => product

end Level

/-- One or more items with commas between them. -/
inductive Separated {α : Type} (Item : List Token → α → Prop) :
    List Token → List α → Prop where
  | last {tokens : List Token} {value : α}
      (item : Item tokens value) :
      Separated Item tokens [value]
  | more {tokens others : List Token} {comma : Token} {value : α} {values : List α}
      (item : Item tokens value)
      (isComma : comma.content = .comma)
      (rest : Separated Item others values) :
      Separated Item (tokens ++ comma :: others) (value :: values)

/-- A constant; a minus sign belongs to the number after it. -/
inductive LiteralPhrase : List Token → Literal → Prop where
  | string {token : Token} {value : String}
      (means : token.content = .string value) :
      LiteralPhrase [token] (.string value)
  | number {token : Token} {value : Number}
      (means : token.content = .number value) :
      LiteralPhrase [token] (.number value)
  | boolean {token : Token} {value : Bool}
      (means : token.boolean? = some value) :
      LiteralPhrase [token] (.boolean value)
  | opposite {sign token : Token} {value opposite : Number}
      (isMinus : sign.content = .arithmetic .subtract)
      (means : token.content = .number value)
      (isOpposite : value.negate? = some opposite) :
      LiteralPhrase [sign, token] (.number opposite)

/-- The word NOT in front of a test, if the test is negated. -/
inductive MaybeNot : Bool → List Token → Prop where
  | plain : MaybeNot false []
  | negated {word : Token}
      (isNot : word.content = .keyword .notWord) :
      MaybeNot true [word]

/-- A test of an attribute, without the attribute in front. -/
inductive TestPhrase (name : String) : List Token → Expression → Prop where
  | membership {negated : Bool} {words tokens : List Token}
      {word opening closing : Token} {values : List Literal}
      (mayNegate : MaybeNot negated words)
      (isIn : word.content = .keyword .inWord)
      (opens : opening.content = .leftParenthesis)
      (literals : Separated LiteralPhrase tokens values)
      (closes : closing.content = .rightParenthesis) :
      TestPhrase name (words ++ word :: opening :: (tokens ++ [closing]))
        (.member name values negated)
  | pattern {negated : Bool} {words : List Token} {word token : Token}
      {pattern : String}
      (mayNegate : MaybeNot negated words)
      (isLike : word.content = .keyword .likeWord)
      (means : token.content = .string pattern) :
      TestPhrase name (words ++ [word, token]) (.matching name pattern negated)

mutual

/--
The phrases of a level with what they say, nested at most so deep.

A minus sign in front of a number literal makes the opposite literal; in front
of anything else it is an operator.  Tests apply to an attribute, comparisons
to two sums.
-/
inductive Phrase : Nat → Level → List Token → Expression → Prop where
  | loosen {nesting : Nat} {level : Level} {tokens : List Token}
      {expression : Expression}
      (inner : Phrase nesting level.tighter tokens expression) :
      Phrase nesting level tokens expression
  | star {nesting : Nat} {token : Token}
      (isStar : token.content = .arithmetic .multiply) :
      Phrase nesting .argument [token] .wildcard
  | connected {nesting : Nat} {connective : Connective}
      {leftTokens rightTokens : List Token} {word : Token}
      {left right : Expression}
      (leftPhrase : Phrase nesting (.ofConnective connective) leftTokens left)
      (isWord : word.content = .keyword (Level.connectiveKeyword connective))
      (rightPhrase :
        Phrase nesting (Level.ofConnective connective).tighter rightTokens right) :
      Phrase nesting (.ofConnective connective) (leftTokens ++ word :: rightTokens)
        (.binary (.logical connective) left right)
  | negation {nesting : Nat} {tokens : List Token} {word : Token}
      {operand : Expression}
      (isNot : word.content = .keyword .notWord)
      (inner : Phrase nesting .negation tokens operand) :
      Phrase (nesting + 1) .negation (word :: tokens) (.unary .not operand)
  | compared {nesting : Nat} {comparison : Comparison}
      {leftTokens rightTokens : List Token} {sign : Token}
      {left right : Expression}
      (leftPhrase : Phrase nesting .sum leftTokens left)
      (isSign : sign.content = .comparison comparison)
      (rightPhrase : Phrase nesting .sum rightTokens right) :
      Phrase nesting .comparison (leftTokens ++ sign :: rightTokens)
        (.binary (.comparison comparison) left right)
  | tested {nesting : Nat} {nameTokens tokens : List Token} {name : String}
      {expression : Expression}
      (fieldPhrase : Phrase nesting .sum nameTokens (.field name))
      (test : TestPhrase name tokens expression) :
      Phrase nesting .comparison (nameTokens ++ tokens) expression
  | computed {nesting : Nat} {operator : Arithmetic}
      {leftTokens rightTokens : List Token} {sign : Token}
      {left right : Expression}
      (leftPhrase : Phrase nesting (.ofArithmetic operator) leftTokens left)
      (isSign : sign.content = .arithmetic operator)
      (rightPhrase :
        Phrase nesting (Level.ofArithmetic operator).tighter rightTokens right) :
      Phrase nesting (.ofArithmetic operator) (leftTokens ++ sign :: rightTokens)
        (.binary (.arithmetic operator) left right)
  | opposite {nesting : Nat} {tokens : List Token} {sign : Token}
      {value opposite : Number}
      (isMinus : sign.content = .arithmetic .subtract)
      (inner : Phrase nesting .signed tokens (.literal (.number value)))
      (isOpposite : value.negate? = some opposite) :
      Phrase (nesting + 1) .signed (sign :: tokens) (.literal (.number opposite))
  | minus {nesting : Nat} {tokens : List Token} {sign : Token}
      {operand : Expression}
      (isMinus : sign.content = .arithmetic .subtract)
      (inner : Phrase nesting .signed tokens operand)
      (hasNoOpposite :
        ∀ value : Number, operand = .literal (.number value) → value.negate? = none) :
      Phrase (nesting + 1) .signed (sign :: tokens) (.unary .negate operand)
  | number {nesting : Nat} {token : Token} {value : Number}
      (means : token.content = .number value) :
      Phrase nesting .primary [token] (.literal (.number value))
  | string {nesting : Nat} {token : Token} {value : String}
      (means : token.content = .string value) :
      Phrase nesting .primary [token] (.literal (.string value))
  | boolean {nesting : Nat} {token : Token} {value : Bool}
      (means : token.boolean? = some value) :
      Phrase nesting .primary [token] (.literal (.boolean value))
  | field {nesting : Nat} {token : Token} {name : String}
      (isNoBoolean : token.boolean? = none)
      (means : token.name? = some name) :
      Phrase nesting .primary [token] (.field name)
  | emptyCall {nesting : Nat} {token opening closing : Token} {function : String}
      (isNoBoolean : token.boolean? = none)
      (means : token.name? = some function)
      (opens : opening.content = .leftParenthesis)
      (closes : closing.content = .rightParenthesis) :
      Phrase (nesting + 1) .primary [token, opening, closing] (.call function [])
  | call {nesting : Nat} {token opening closing : Token} {function : String}
      {tokens : List Token} {values : List Expression}
      (isNoBoolean : token.boolean? = none)
      (means : token.name? = some function)
      (opens : opening.content = .leftParenthesis)
      (inner : Arguments nesting tokens values)
      (closes : closing.content = .rightParenthesis) :
      Phrase (nesting + 1) .primary (token :: opening :: (tokens ++ [closing]))
        (.call function values)
  | group {nesting : Nat} {opening closing : Token} {tokens : List Token}
      {expression : Expression}
      (opens : opening.content = .leftParenthesis)
      (inner : Phrase nesting .disjunction tokens expression)
      (closes : closing.content = .rightParenthesis) :
      Phrase (nesting + 1) .primary (opening :: (tokens ++ [closing])) expression

/-- One or more arguments with commas between them. -/
inductive Arguments : Nat → List Token → List Expression → Prop where
  | last {nesting : Nat} {tokens : List Token} {value : Expression}
      (item : Phrase nesting .argument tokens value) :
      Arguments nesting tokens [value]
  | more {nesting : Nat} {tokens others : List Token} {comma : Token}
      {value : Expression} {values : List Expression}
      (item : Phrase nesting .argument tokens value)
      (isComma : comma.content = .comma)
      (rest : Arguments nesting others values) :
      Arguments nesting (tokens ++ comma :: others) (value :: values)

end

/-- The body of a condition: an expression with the shape of a condition. -/
structure ConditionPhrase (nesting : Nat) (tokens : List Token)
    (expression : Expression) : Prop where
  phrase : Phrase nesting .disjunction tokens expression
  isCondition : expression.isCondition = true
  joinsConditions : expression.joinsConditions = true

/-- A column: arithmetic over calls, and perhaps a string or name after AS. -/
inductive ColumnPhrase (nesting : Nat) : List Token → SelectItem → Prop where
  | unnamed {tokens : List Token} {expression : Expression}
      {function : String} {arguments : List Expression}
      (phrase : Phrase nesting .sum tokens expression)
      (arithmetic : expression.CallArithmetic true)
      (computes : expression.Computes function arguments) :
      ColumnPhrase nesting tokens ⟨function, arguments, none⟩
  | named {tokens : List Token} {word token : Token} {expression : Expression}
      {function name : String} {arguments : List Expression}
      (phrase : Phrase nesting .sum tokens expression)
      (arithmetic : expression.CallArithmetic true)
      (computes : expression.Computes function arguments)
      (isAs : word.content = .keyword .asWord)
      (means : token.string? = some name ∨ token.name? = some name) :
      ColumnPhrase nesting (tokens ++ [word, token])
        ⟨function, arguments, some name⟩

/-- The name of a source or of a facet. -/
inductive NamePhrase : List Token → String → Prop where
  | name {token : Token} {name : String}
      (means : token.name? = some name) :
      NamePhrase [token] name

/-- A positive whole number. -/
inductive AmountPhrase : List Token → UInt64 → Prop where
  | amount {token : Token} {amount : UInt64}
      (means : token.amount? = some amount) :
      AmountPhrase [token] amount

/-- A point in time. -/
inductive TimePhrase : List Token → TimeSpec → Prop where
  | anchor {token : Token} {anchor : Anchor}
      (means : token.content = .keyword (.anchorWord anchor)) :
      TimePhrase [token] (.anchor anchor)
  | timestamp {token : Token} {text : String}
      (means : token.content = .string text) :
      TimePhrase [token] (.timestamp text)
  | ago {token unitToken word : Token} {amount : UInt64} {unit : TimeUnit}
      (means : token.amount? = some amount)
      (meansUnit : unitToken.timeUnit? = some unit)
      (isAgo : word.content = .keyword .agoWord) :
      TimePhrase [token, unitToken, word] (.ago amount unit)

/-- A bucket size. -/
inductive BucketPhrase : List Token → Bucketing → Prop where
  | auto {token : Token}
      (means : token.content = .keyword .autoWord) :
      BucketPhrase [token] .auto
  | every {token unitToken : Token} {amount : UInt64} {unit : TimeUnit}
      (means : token.amount? = some amount)
      (meansUnit : unitToken.timeUnit? = some unit) :
      BucketPhrase [token, unitToken] (.every amount unit)

/-- A clause that may be absent: its keywords, and then its body. -/
inductive OptionalPhrase {α : Type} (keywords : List Keyword)
    (Body : List Token → α → Prop) : List Token → Option α → Prop where
  | absent : OptionalPhrase keywords Body [] none
  | present {heading tokens : List Token} {value : α}
      (introduces : heading.map Token.content = keywords.map .keyword)
      (body : Body tokens value) :
      OptionalPhrase keywords Body (heading ++ tokens) (some value)

/-- The optional clauses of a query, in order. -/
inductive ClausePhrases (nesting : Nat) (query : Query) : List Token → Prop where
  | clauses {condition facet limit since upTo compareWith timeseries : List Token}
      (conditionPhrase :
        OptionalPhrase [.whereWord] (ConditionPhrase nesting) condition
          query.condition)
      (facetPhrase :
        OptionalPhrase [.facetWord] (Separated NamePhrase) facet query.facet)
      (limitPhrase : OptionalPhrase [.limitWord] AmountPhrase limit query.limit)
      (sincePhrase : OptionalPhrase [.sinceWord] TimePhrase since query.since)
      (upToPhrase : OptionalPhrase [.untilWord] TimePhrase upTo query.upTo)
      (comparePhrase :
        OptionalPhrase [.compareWord, .withWord] TimePhrase compareWith
          query.compareWith)
      (timeseriesPhrase :
        OptionalPhrase [.timeseriesWord] BucketPhrase timeseries query.timeseries) :
      ClausePhrases nesting query
        (condition ++ facet ++ limit ++ since ++ upTo ++ compareWith ++ timeseries)

/-- A whole query: its columns, its sources, and its optional clauses. -/
inductive QueryPhrase (nesting : Nat) : List Token → Query → Prop where
  | query {query : Query} {selectWord fromWord : Token}
      {select sources clauses : List Token}
      (isSelect : selectWord.content = .keyword .selectWord)
      (selectPhrase : Separated (ColumnPhrase nesting) select query.select)
      (isFrom : fromWord.content = .keyword .fromWord)
      (sourcesPhrase : Separated NamePhrase sources query.sources)
      (clausePhrases : ClausePhrases nesting query clauses) :
      QueryPhrase nesting
        (selectWord :: (select ++ fromWord :: (sources ++ clauses))) query

theorem Level.strength_tighter {level : Level} (isLoose : level ≠ .primary) :
    level.tighter.strength = level.strength + 1 := by
  cases level <;> simp_all [tighter, strength]

theorem Level.strength_injective {first second : Level}
    (equal : first.strength = second.strength) :
    first = second := by
  cases first <;> cases second <;> simp_all [strength]

theorem Level.strength_le_eight (level : Level) : level.strength ≤ 8 := by
  cases level <;> simp [strength]

/-- A phrase of a level is a phrase of every looser level. -/
theorem Phrase.loosenTo
    {nesting : Nat} {level loose : Level}
    {tokens : List Token} {expression : Expression}
    (phrase : Phrase nesting level tokens expression)
    (isLooser : loose.strength ≤ level.strength) :
    Phrase nesting loose tokens expression := by
  induction gap : level.strength - loose.strength generalizing loose with
  | zero =>
      have equal : loose = level := Level.strength_injective (by omega)
      exact equal ▸ phrase
  | succ gap ih =>
      have isLoose : loose ≠ .primary := by
        rintro rfl
        have bound := level.strength_le_eight
        have isTightest : Level.primary.strength = 8 := rfl
        omega
      have step := Level.strength_tighter isLoose
      exact .loosen (ih (by omega) (by omega))

mutual

/-- A phrase stays one when deeper nesting is allowed. -/
theorem Phrase.mono {nesting wider : Nat} {level : Level}
    {tokens : List Token} {expression : Expression} :
    Phrase nesting level tokens expression → nesting ≤ wider →
      Phrase wider level tokens expression
  | .loosen inner, isWider => .loosen (inner.mono isWider)
  | .star isStar, _ => .star isStar
  | .connected left isWord right, isWider =>
      .connected (left.mono isWider) isWord (right.mono isWider)
  | .negation isNot inner, isWider => by
      obtain ⟨extra, rfl⟩ := Nat.exists_eq_add_of_le' isWider
      exact .negation isNot (inner.mono (Nat.le_add_left _ extra))
  | .compared left isSign right, isWider =>
      .compared (left.mono isWider) isSign (right.mono isWider)
  | .tested left test, isWider => .tested (left.mono isWider) test
  | .computed left isSign right, isWider =>
      .computed (left.mono isWider) isSign (right.mono isWider)
  | .opposite isMinus inner isOpposite, isWider => by
      obtain ⟨extra, rfl⟩ := Nat.exists_eq_add_of_le' isWider
      exact .opposite isMinus (inner.mono (Nat.le_add_left _ extra)) isOpposite
  | .minus isMinus inner hasNoOpposite, isWider => by
      obtain ⟨extra, rfl⟩ := Nat.exists_eq_add_of_le' isWider
      exact .minus isMinus (inner.mono (Nat.le_add_left _ extra)) hasNoOpposite
  | .number means, _ => .number means
  | .string means, _ => .string means
  | .boolean means, _ => .boolean means
  | .field isNoBoolean means, _ => .field isNoBoolean means
  | .emptyCall isNoBoolean means opens closes, isWider => by
      obtain ⟨extra, rfl⟩ := Nat.exists_eq_add_of_le' isWider
      exact .emptyCall isNoBoolean means opens closes
  | .call isNoBoolean means opens inner closes, isWider => by
      obtain ⟨extra, rfl⟩ := Nat.exists_eq_add_of_le' isWider
      exact
        .call isNoBoolean means opens (inner.mono (Nat.le_add_left _ extra)) closes
  | .group opens inner closes, isWider => by
      obtain ⟨extra, rfl⟩ := Nat.exists_eq_add_of_le' isWider
      exact .group opens (inner.mono (Nat.le_add_left _ extra)) closes

theorem Arguments.mono {nesting wider : Nat}
    {tokens : List Token} {values : List Expression} :
    Arguments nesting tokens values → nesting ≤ wider → Arguments wider tokens values
  | .last item, isWider => .last (item.mono isWider)
  | .more item isComma rest, isWider =>
      .more (item.mono isWider) isComma (rest.mono isWider)

end

mutual

/-- No phrase is nested more deeply than it has tokens. -/
theorem Phrase.nested_within_length {nesting : Nat} {level : Level}
    {tokens : List Token} {expression : Expression} :
    Phrase nesting level tokens expression →
      Phrase tokens.length level tokens expression
  | .loosen inner => .loosen inner.nested_within_length
  | .star isStar => .star isStar
  | .connected left isWord right =>
      .connected (left.nested_within_length.mono (by simp)) isWord
        (right.nested_within_length.mono (by simp; omega))
  | .negation isNot inner => .negation isNot inner.nested_within_length
  | .compared left isSign right =>
      .compared (left.nested_within_length.mono (by simp)) isSign
        (right.nested_within_length.mono (by simp; omega))
  | .tested left test => .tested (left.nested_within_length.mono (by simp)) test
  | .computed left isSign right =>
      .computed (left.nested_within_length.mono (by simp)) isSign
        (right.nested_within_length.mono (by simp; omega))
  | .opposite isMinus inner isOpposite =>
      .opposite isMinus inner.nested_within_length isOpposite
  | .minus isMinus inner hasNoOpposite =>
      .minus isMinus inner.nested_within_length hasNoOpposite
  | .number means => .number means
  | .string means => .string means
  | .boolean means => .boolean means
  | .field isNoBoolean means => .field isNoBoolean means
  | .emptyCall isNoBoolean means opens closes => .emptyCall isNoBoolean means opens closes
  | .call isNoBoolean means opens inner closes =>
      .call isNoBoolean means opens (inner.nested_within_length.mono (by simp; omega)) closes
  | .group opens inner closes =>
      .group opens (inner.nested_within_length.mono (by simp)) closes

theorem Arguments.nested_within_length {nesting : Nat}
    {tokens : List Token} {values : List Expression} :
    Arguments nesting tokens values → Arguments tokens.length tokens values
  | .last item => .last item.nested_within_length
  | .more item isComma rest =>
      .more (item.nested_within_length.mono (by simp)) isComma
        (rest.nested_within_length.mono (by simp; omega))

end

theorem arguments_of_separated
    {nesting : Nat} {tokens : List Token} {values : List Expression}
    (separated : Separated (Phrase nesting .argument) tokens values) :
    Arguments nesting tokens values := by
  induction separated with
  | last item => exact .last item
  | more item isComma _ ih => exact .more item isComma ih

/-- Items of a list stay items when a longer run of tokens may be nested more deeply. -/
theorem Separated.imp_of_length
    {α : Type} {Item Item' : List Token → α → Prop}
    {tokens : List Token} {values : List α}
    (separated : Separated Item tokens values)
    (implies :
      ∀ {part : List Token} {value : α},
        part.length ≤ tokens.length → Item part value → Item' part value) :
    Separated Item' tokens values := by
  induction separated with
  | last item => exact .last (implies (Nat.le_refl _) item)
  | more item isComma _ ih =>
      refine .more (implies (by simp) item) isComma (ih fun isShorter item' => ?_)
      exact implies (by simp; omega) item'

theorem OptionalPhrase.imp_of_length
    {α : Type} {keywords : List Keyword} {Body Body' : List Token → α → Prop}
    {tokens : List Token} {value : Option α}
    (phrase : OptionalPhrase keywords Body tokens value)
    (implies :
      ∀ {part : List Token} {value : α},
        part.length ≤ tokens.length → Body part value → Body' part value) :
    OptionalPhrase keywords Body' tokens value := by
  cases phrase with
  | absent => exact .absent
  | present introduces body => exact .present introduces (implies (by simp) body)

theorem ConditionPhrase.mono {nesting wider : Nat} {tokens : List Token}
    {expression : Expression}
    (condition : ConditionPhrase nesting tokens expression)
    (isWider : nesting ≤ wider) :
    ConditionPhrase wider tokens expression :=
  { condition with phrase := condition.phrase.mono isWider }

theorem ConditionPhrase.nested_within_length {nesting : Nat} {tokens : List Token}
    {expression : Expression}
    (condition : ConditionPhrase nesting tokens expression) :
    ConditionPhrase tokens.length tokens expression :=
  { condition with phrase := condition.phrase.nested_within_length }

theorem ColumnPhrase.mono {nesting wider : Nat} {tokens : List Token} {item : SelectItem}
    (column : ColumnPhrase nesting tokens item)
    (isWider : nesting ≤ wider) :
    ColumnPhrase wider tokens item := by
  cases column with
  | unnamed phrase arithmetic computes =>
      exact .unnamed (phrase.mono isWider) arithmetic computes
  | named phrase arithmetic computes isAs means =>
      exact .named (phrase.mono isWider) arithmetic computes isAs means

theorem ColumnPhrase.nested_within_length {nesting : Nat} {tokens : List Token}
    {item : SelectItem}
    (column : ColumnPhrase nesting tokens item) :
    ColumnPhrase tokens.length tokens item := by
  cases column with
  | unnamed phrase arithmetic computes =>
      exact .unnamed phrase.nested_within_length arithmetic computes
  | named phrase arithmetic computes isAs means =>
      exact
        .named (phrase.nested_within_length.mono (by simp)) arithmetic computes isAs means

/-- Only columns and the condition of a query are nested. -/
theorem QueryPhrase.imp_of_length {nesting wider : Nat} {tokens : List Token}
    {query : Query}
    (phrase : QueryPhrase nesting tokens query)
    (columns :
      ∀ {part : List Token} {item : SelectItem},
        part.length ≤ tokens.length → ColumnPhrase nesting part item →
          ColumnPhrase wider part item)
    (conditions :
      ∀ {part : List Token} {expression : Expression},
        part.length ≤ tokens.length → ConditionPhrase nesting part expression →
          ConditionPhrase wider part expression) :
    QueryPhrase wider tokens query := by
  obtain ⟨isSelect, selectPhrase, isFrom, sourcesPhrase, clausePhrases⟩ := phrase
  obtain ⟨conditionPhrase, facetPhrase, limitPhrase, sincePhrase, upToPhrase,
    comparePhrase, timeseriesPhrase⟩ := clausePhrases
  refine
    .query isSelect (selectPhrase.imp_of_length fun isShorter => columns ?_) isFrom
      sourcesPhrase
      (.clauses (conditionPhrase.imp_of_length fun isShorter => conditions ?_)
        facetPhrase limitPhrase sincePhrase upToPhrase comparePhrase timeseriesPhrase)
  · simp
    omega
  · simp
    omega

theorem QueryPhrase.mono {nesting wider : Nat} {tokens : List Token} {query : Query}
    (phrase : QueryPhrase nesting tokens query)
    (isWider : nesting ≤ wider) :
    QueryPhrase wider tokens query :=
  phrase.imp_of_length (fun _ column => column.mono isWider)
    fun _ condition => condition.mono isWider

/-- No query is nested more deeply than it has tokens. -/
theorem QueryPhrase.nested_within_length {nesting : Nat} {tokens : List Token}
    {query : Query}
    (phrase : QueryPhrase nesting tokens query) :
    QueryPhrase tokens.length tokens query :=
  phrase.imp_of_length (fun isShorter column => column.nested_within_length.mono isShorter)
    fun isShorter condition => condition.nested_within_length.mono isShorter

/-! ## First tokens -/

/-- The strength of the tightest level whose phrases may start with a token. -/
def openingStrength? : TokenContent → Option Nat
  | .arithmetic .multiply => some 0
  | .keyword .notWord => some 3
  | .arithmetic .subtract => some 7
  | .keyword word => if word.isReserved then none else some 8
  | .name _ _ => some 8
  | .number _ => some 8
  | .string _ => some 8
  | .leftParenthesis => some 8
  | _ => none

theorem openingStrength?_of_name? {token : Token} {name : String}
    (means : token.name? = some name) :
    openingStrength? token.content = some 8 := by
  rcases Token.name?_eq_some_iff.mp means with ⟨isQuoted, content⟩ | ⟨word, content, isFree, _⟩
  · rw [content]
    rfl
  · rw [content]
    cases word <;> first | rfl | cases isFree

theorem openingStrength?_of_boolean? {token : Token} {value : Bool}
    (means : token.boolean? = some value) :
    openingStrength? token.content = some 8 := by
  obtain ⟨name, content⟩ := Token.exists_name_of_boolean? means
  rw [content]
  rfl

/-- The first token of a phrase shows that the phrase is at most so tight. -/
def StartsAt (level : Level) (tokens : List Token) : Prop :=
  ∃ (token : Token) (rest : List Token) (strength : Nat),
    tokens = token :: rest ∧ openingStrength? token.content = some strength ∧
      level.strength ≤ strength

theorem StartsAt.append {level : Level} {tokens : List Token}
    (starts : StartsAt level tokens) (others : List Token) :
    StartsAt level (tokens ++ others) := by
  obtain ⟨token, rest, strength, rfl, opens, isLoose⟩ := starts
  exact ⟨token, rest ++ others, strength, rfl, opens, isLoose⟩

theorem StartsAt.loosen {tight loose : Level} {tokens : List Token}
    (starts : StartsAt tight tokens) (isLooser : loose.strength ≤ tight.strength) :
    StartsAt loose tokens := by
  obtain ⟨token, rest, strength, equal, opens, isLoose⟩ := starts
  exact ⟨token, rest, strength, equal, opens, Nat.le_trans isLooser isLoose⟩

theorem Level.strength_le_tighter (level : Level) :
    level.strength ≤ level.tighter.strength := by
  cases level <;> simp [tighter, strength]

theorem Phrase.startsAt {nesting : Nat} {level : Level}
    {tokens : List Token} {expression : Expression} :
    Phrase nesting level tokens expression → StartsAt level tokens
  | .loosen inner => inner.startsAt.loosen level.strength_le_tighter
  | .star isStar => ⟨_, _, 0, rfl, by simp [isStar, openingStrength?], Nat.le_refl _⟩
  | .connected left _ _ => left.startsAt.append _
  | .negation isNot _ =>
      ⟨_, _, 3, rfl, by simp [isNot, openingStrength?], Nat.le_refl _⟩
  | .compared left _ _ =>
      (left.startsAt.append _).loosen (by simp [Level.strength])
  | .tested left _ =>
      (left.startsAt.append _).loosen (by simp [Level.strength])
  | .computed left _ _ => left.startsAt.append _
  | .opposite isMinus _ _ =>
      ⟨_, _, 7, rfl, by simp [isMinus, openingStrength?], Nat.le_refl _⟩
  | .minus isMinus _ _ =>
      ⟨_, _, 7, rfl, by simp [isMinus, openingStrength?], Nat.le_refl _⟩
  | .number means => ⟨_, _, 8, rfl, by simp [means, openingStrength?], Nat.le_refl _⟩
  | .string means => ⟨_, _, 8, rfl, by simp [means, openingStrength?], Nat.le_refl _⟩
  | .boolean means => ⟨_, _, 8, rfl, openingStrength?_of_boolean? means, Nat.le_refl _⟩
  | .field _ means => ⟨_, _, 8, rfl, openingStrength?_of_name? means, Nat.le_refl _⟩
  | .emptyCall _ means _ _ => ⟨_, _, 8, rfl, openingStrength?_of_name? means, Nat.le_refl _⟩
  | .call _ means _ _ _ => ⟨_, _, 8, rfl, openingStrength?_of_name? means, Nat.le_refl _⟩
  | .group opens _ _ => ⟨_, _, 8, rfl, by simp [opens, openingStrength?], Nat.le_refl _⟩

end EventQuery.Grammar
