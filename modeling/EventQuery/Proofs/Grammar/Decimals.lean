import EventQuery.Canonical.Query
import EventQuery.Proofs.Grammar.Acceptance
import EventQuery.Proofs.Query.WellFormed
import EventQuery.Proofs.Token.Numeral

/-!
# The decimals of a query

Amounts and limits are whole numbers, so a decimal of a text can stand in a
column or a condition only, as a number of its own or behind a minus sign.  The
grammar drops none and adds none: the magnitudes of the decimals of a query are
those of the decimals of its text, from left to right.
-/

namespace EventQuery

/-- The rank of the magnitude of the decimal that a token says. -/
def TokenContent.rank? : TokenContent → Option Nat
  | number value => value.rank?
  | _ => none

theorem TokenContent.rank?_eq_some_iff {content : TokenContent} {rank : Nat} :
    content.rank? = some rank ↔ ∃ value, content = .number value ∧ value.rank? = some rank := by
  cases content <;> simp [rank?]

theorem Number.rank?_of_opposite {number opposite : Number}
    (isOpposite : number.negate? = some opposite) :
    opposite.rank? = number.rank? := by
  cases number with
  | integer whole =>
      obtain ⟨whole', rfl, _⟩ := Number.ofInt?_eq_some_iff.mp isOpposite
      rfl
  | float value =>
      cases isOpposite
      rfl

/-- Infinite numbers are the decimals with the rank of infinity. -/
theorem Number.isFinite_eq_false_iff {number : Number} :
    number.isFinite = false ↔ number.rank? = some Decimal.infinityRank := by
  cases number with
  | integer whole => simp [isFinite, rank?]
  | float value =>
      have isWithin := value.rank_le_infinityRank
      simp only [isFinite, Decimal.Binary64.isFinite, rank?, decide_eq_false_iff_not,
        Option.some.injEq]
      omega

namespace Grammar

variable {token : Token}

/-! ## Tokens that are no decimals -/

theorem rank?_of_keyword {word : Keyword} (isWord : token.content = .keyword word) :
    token.content.rank? = none := by
  rw [isWord]
  rfl

theorem rank?_of_name? {name : String} (means : token.name? = some name) :
    token.content.rank? = none := by
  rcases Token.name?_eq_some_iff.mp means with ⟨_, isName⟩ | ⟨_, isWord, _⟩
  · rw [isName]
    rfl
  · exact rank?_of_keyword isWord

theorem rank?_of_boolean? {value : Bool} (means : token.boolean? = some value) :
    token.content.rank? = none := by
  obtain ⟨name, isName⟩ := Token.exists_name_of_boolean? means
  rw [isName]
  rfl

theorem rank?_of_string? {value : String} (means : token.string? = some value) :
    token.content.rank? = none := by
  rw [Token.string?_eq_some_iff.mp means]
  rfl

theorem rank?_of_amount? {amount : UInt64} (means : token.amount? = some amount) :
    token.content.rank? = none := by
  obtain ⟨value, isNumber, _⟩ := Token.amount?_eq_some_iff.mp means
  rw [isNumber]
  rfl

theorem rank?_of_timeUnit? {unit : TimeUnit} (means : token.timeUnit? = some unit) :
    token.content.rank? = none :=
  rank?_of_keyword (Token.timeUnit?_eq_some_iff.mp means)

/-! ## Constants and tests -/

/-- Tokens say the decimals with the ranks of some numbers, in their order. -/
def SayDecimals (tokens : List Token) (numbers : List Number) : Prop :=
  tokens.filterMap (fun token => token.content.rank?) = numbers.filterMap Number.rank?

namespace SayDecimals

variable {tokens others : List Token} {numbers more : List Number}

theorem nil : SayDecimals [] [] :=
  rfl

theorem single {number : Number} (same : token.content.rank? = number.rank?) :
    SayDecimals [token] [number] := by
  simp only [SayDecimals, List.filterMap_cons, List.filterMap_nil, same]

theorem append
    (decimals : SayDecimals tokens numbers)
    (moreDecimals : SayDecimals others more) :
    SayDecimals (tokens ++ others) (numbers ++ more) := by
  unfold SayDecimals
  rw [List.filterMap_append, List.filterMap_append, decimals, moreDecimals]

theorem cons
    (isNone : token.content.rank? = none)
    (decimals : SayDecimals tokens numbers) :
    SayDecimals (token :: tokens) numbers := by
  unfold SayDecimals
  rw [List.filterMap_cons, isNone]
  exact decimals

theorem snoc
    (decimals : SayDecimals tokens numbers)
    (isNone : token.content.rank? = none) :
    SayDecimals (tokens ++ [token]) numbers :=
  List.append_nil numbers ▸ decimals.append (cons isNone .nil)

/-- Between two parts stands a token that is no decimal. -/
theorem between
    (decimals : SayDecimals tokens numbers)
    (isNone : token.content.rank? = none)
    (moreDecimals : SayDecimals others more) :
    SayDecimals (tokens ++ token :: others) (numbers ++ more) :=
  decimals.append (moreDecimals.cons isNone)

end SayDecimals

theorem sayDecimals_of_literalPhrase {tokens : List Token} {value : Literal}
    (phrase : LiteralPhrase tokens value) :
    SayDecimals tokens value.numbers := by
  cases phrase with
  | string means => exact .cons (congrArg TokenContent.rank? means) .nil
  | number means => exact .single (congrArg TokenContent.rank? means)
  | boolean means => exact .cons (rank?_of_boolean? means) .nil
  | opposite isMinus means isOpposite =>
      have same := (congrArg TokenContent.rank? means).trans
        (Number.rank?_of_opposite isOpposite).symm
      exact .cons (congrArg TokenContent.rank? isMinus) (.single same)

theorem sayDecimals_of_separated {α : Type} {Item : List Token → α → Prop}
    {numbers : α → List Number} {tokens : List Token} {values : List α}
    (separated : Separated Item tokens values)
    (decimals :
      ∀ (part : List Token) (value : α), Item part value → SayDecimals part (numbers value)) :
    SayDecimals tokens (values.flatMap numbers) := by
  induction separated with
  | last item =>
      rw [List.flatMap_singleton]
      exact decimals _ _ item
  | more item isComma rest ih =>
      rw [List.flatMap_cons]
      exact (decimals _ _ item).between (congrArg TokenContent.rank? isComma) ih

/-- Items without decimals are no decimals together. -/
theorem sayNone_of_separated {α : Type} {Item : List Token → α → Prop}
    {tokens : List Token} {values : List α}
    (separated : Separated Item tokens values)
    (noDecimals : ∀ (part : List Token) (value : α), Item part value → SayDecimals part []) :
    SayDecimals tokens [] := by
  have decimals : SayDecimals tokens (values.flatMap fun _ => []) :=
    sayDecimals_of_separated separated noDecimals
  rwa [List.flatMap_eq_nil_iff.mpr fun _ _ => rfl] at decimals

theorem sayDecimals_of_maybeNot {negated : Bool} {words : List Token}
    (mayNegate : MaybeNot negated words) :
    SayDecimals words [] := by
  cases mayNegate with
  | plain => rfl
  | negated isNot => exact .cons (rank?_of_keyword isNot) .nil

theorem sayDecimals_of_testPhrase {name : String} {tokens : List Token}
    {expression : Expression}
    (test : TestPhrase name tokens expression) :
    SayDecimals tokens expression.numbers := by
  cases test with
  | membership mayNegate isIn opens literals closes =>
      have values :=
        sayDecimals_of_separated literals fun _ _ item => sayDecimals_of_literalPhrase item
      have inner := values.snoc (congrArg TokenContent.rank? closes)
      exact
        (sayDecimals_of_maybeNot mayNegate).between (rank?_of_keyword isIn)
          (inner.cons (congrArg TokenContent.rank? opens))
  | pattern mayNegate isLike means =>
      exact
        (sayDecimals_of_maybeNot mayNegate).between (rank?_of_keyword isLike)
          (.cons (congrArg TokenContent.rank? means) .nil)

/-! ## Expressions -/

mutual

/-- The tokens of a phrase say the decimals of its expression. -/
theorem Phrase.sayDecimals {nesting : Nat} {level : Level} {tokens : List Token}
    {expression : Expression} :
    Phrase nesting level tokens expression → SayDecimals tokens expression.numbers
  | .loosen inner => inner.sayDecimals
  | .star isStar => .cons (congrArg TokenContent.rank? isStar) .nil
  | .connected left isWord right =>
      left.sayDecimals.between (rank?_of_keyword isWord) right.sayDecimals
  | .negation isNot inner => inner.sayDecimals.cons (rank?_of_keyword isNot)
  | .compared left isSign right =>
      left.sayDecimals.between (congrArg TokenContent.rank? isSign) right.sayDecimals
  | .tested field test => field.sayDecimals.append (sayDecimals_of_testPhrase test)
  | .computed left isSign right =>
      left.sayDecimals.between (congrArg TokenContent.rank? isSign) right.sayDecimals
  | @Phrase.opposite _ _ _ value opposite isMinus inner isOpposite => by
      have sameRank : [opposite].filterMap Number.rank? = [value].filterMap Number.rank? := by
        rw [List.filterMap_cons, List.filterMap_cons, Number.rank?_of_opposite isOpposite]
      exact .cons (congrArg TokenContent.rank? isMinus) (inner.sayDecimals.trans sameRank.symm)
  | .minus isMinus inner _ =>
      inner.sayDecimals.cons (congrArg TokenContent.rank? isMinus)
  | .number means => sayDecimals_of_literalPhrase (.number means)
  | .string means => sayDecimals_of_literalPhrase (.string means)
  | .boolean means => sayDecimals_of_literalPhrase (.boolean means)
  | .field _ means => .cons (rank?_of_name? means) .nil
  | .emptyCall _ means opens closes =>
      .cons (rank?_of_name? means)
        (.cons (congrArg TokenContent.rank? opens)
          (.cons (congrArg TokenContent.rank? closes) .nil))
  | .call _ means opens inner closes => by
      have values := inner.sayDecimals.snoc (congrArg TokenContent.rank? closes)
      exact .cons (rank?_of_name? means)
        (values.cons (congrArg TokenContent.rank? opens))
  | .group opens inner closes => by
      have closed := inner.sayDecimals.snoc (congrArg TokenContent.rank? closes)
      exact closed.cons (congrArg TokenContent.rank? opens)

theorem Arguments.sayDecimals {nesting : Nat} {tokens : List Token}
    {values : List Expression} :
    Arguments nesting tokens values → SayDecimals tokens (Expression.listNumbers values)
  | .last item => by
      rw [Expression.listNumbers, Expression.listNumbers, List.append_nil]
      exact item.sayDecimals
  | .more item isComma rest =>
      item.sayDecimals.between (congrArg TokenContent.rank? isComma) rest.sayDecimals

end

/-! ## Queries -/

theorem sayDecimals_of_columnPhrase {nesting : Nat} {tokens : List Token} {item : SelectItem}
    (column : ColumnPhrase nesting tokens item) :
    SayDecimals tokens (Expression.listNumbers item.arguments) := by
  cases column with
  | unnamed phrase _ computes =>
      rw [computes.listNumbers_eq]
      exact phrase.sayDecimals
  | named phrase _ computes isAs means =>
      rw [computes.listNumbers_eq]
      have isNone := means.elim rank?_of_string? rank?_of_name?
      have aliased := phrase.sayDecimals.between (rank?_of_keyword isAs) (.cons isNone .nil)
      rwa [List.append_nil] at aliased

theorem sayDecimals_of_optionalPhrase {α : Type} {keywords : List Keyword}
    {Body : List Token → α → Prop} {numbers : α → List Number}
    {tokens : List Token} {value : Option α}
    (phrase : OptionalPhrase keywords Body tokens value)
    (decimals :
      ∀ (part : List Token) (value : α), Body part value → SayDecimals part (numbers value)) :
    SayDecimals tokens (value.toList.flatMap numbers) := by
  cases phrase with
  | absent => rfl
  | @present heading _ value introduces body =>
      have wordsSay : SayDecimals heading [] := by
        refine List.filterMap_eq_nil_iff.mpr fun word isWord => ?_
        have isKeyword : word.content ∈ heading.map Token.content :=
          List.mem_map_of_mem isWord
        rw [introduces] at isKeyword
        obtain ⟨keyword, _, content⟩ := List.mem_map.mp isKeyword
        exact rank?_of_keyword content.symm
      rw [Option.toList_some, List.flatMap_singleton]
      exact wordsSay.append (decimals _ _ body)

/-- A clause that has no decimals says none, be it there or not. -/
theorem sayNone_of_optionalPhrase {α : Type} {keywords : List Keyword}
    {Body : List Token → α → Prop} {tokens : List Token} {value : Option α}
    (phrase : OptionalPhrase keywords Body tokens value)
    (noDecimals : ∀ (part : List Token) (value : α), Body part value → SayDecimals part []) :
    SayDecimals tokens [] := by
  have decimals : SayDecimals tokens (value.toList.flatMap fun _ => []) :=
    sayDecimals_of_optionalPhrase phrase noDecimals
  rwa [List.flatMap_eq_nil_iff.mpr fun _ _ => rfl] at decimals

theorem sayDecimals_of_namePhrase {tokens : List Token} {name : String}
    (phrase : NamePhrase tokens name) :
    SayDecimals tokens [] := by
  cases phrase with
  | name means => exact .cons (rank?_of_name? means) .nil

theorem sayDecimals_of_amountPhrase {tokens : List Token} {amount : UInt64}
    (phrase : AmountPhrase tokens amount) :
    SayDecimals tokens [] := by
  cases phrase with
  | amount means => exact .cons (rank?_of_amount? means) .nil

theorem sayDecimals_of_timePhrase {tokens : List Token} {spec : TimeSpec}
    (phrase : TimePhrase tokens spec) :
    SayDecimals tokens [] := by
  cases phrase with
  | anchor means => exact .cons (rank?_of_keyword means) .nil
  | timestamp means => exact .cons (congrArg TokenContent.rank? means) .nil
  | ago means meansUnit isAgo =>
      exact
        .cons (rank?_of_amount? means)
          (.cons (rank?_of_timeUnit? meansUnit) (.cons (rank?_of_keyword isAgo) .nil))

theorem sayDecimals_of_bucketPhrase {tokens : List Token} {bucket : Bucketing}
    (phrase : BucketPhrase tokens bucket) :
    SayDecimals tokens [] := by
  cases phrase with
  | auto means => exact .cons (rank?_of_keyword means) .nil
  | every means meansUnit =>
      exact .cons (rank?_of_amount? means) (.cons (rank?_of_timeUnit? meansUnit) .nil)

theorem sayDecimals_of_clausePhrases {nesting : Nat} {query : Query} {tokens : List Token}
    (clauses : ClausePhrases nesting query tokens) :
    SayDecimals tokens (query.condition.toList.flatMap Expression.numbers) := by
  obtain ⟨conditionPhrase, facetPhrase, limitPhrase, sincePhrase, upToPhrase, comparePhrase,
    timeseriesPhrase⟩ := clauses
  have condition : SayDecimals _ (query.condition.toList.flatMap Expression.numbers) :=
    sayDecimals_of_optionalPhrase conditionPhrase fun _ _ body => body.phrase.sayDecimals
  have facet := sayNone_of_optionalPhrase facetPhrase fun _ _ names =>
    sayNone_of_separated names fun _ _ name => sayDecimals_of_namePhrase name
  have limit := sayNone_of_optionalPhrase limitPhrase fun _ _ => sayDecimals_of_amountPhrase
  have since := sayNone_of_optionalPhrase sincePhrase fun _ _ => sayDecimals_of_timePhrase
  have upTo := sayNone_of_optionalPhrase upToPhrase fun _ _ => sayDecimals_of_timePhrase
  have compareWith := sayNone_of_optionalPhrase comparePhrase fun _ _ => sayDecimals_of_timePhrase
  have timeseries :=
    sayNone_of_optionalPhrase timeseriesPhrase fun _ _ => sayDecimals_of_bucketPhrase
  have all :=
    (((((condition.append facet).append limit).append since).append upTo).append
      compareWith).append timeseries
  simpa only [List.append_nil] using all

/-- The tokens of a query say its decimals, from left to right and no others. -/
theorem QueryPhrase.sayDecimals {nesting : Nat} {tokens : List Token} {query : Query}
    (phrase : QueryPhrase nesting tokens query) :
    SayDecimals tokens query.numbers := by
  obtain ⟨isSelect, selectPhrase, isFrom, sourcesPhrase, clausePhrases⟩ := phrase
  have columns :
      SayDecimals _ (query.select.flatMap fun item => Expression.listNumbers item.arguments) :=
    sayDecimals_of_separated selectPhrase fun _ _ column => sayDecimals_of_columnPhrase column
  have sources :=
    sayNone_of_separated sourcesPhrase fun _ _ name => sayDecimals_of_namePhrase name
  have behind := sources.append (sayDecimals_of_clausePhrases clausePhrases)
  exact .cons (rank?_of_keyword isSelect) (columns.between (rank?_of_keyword isFrom) behind)

end Grammar

/-- A query has an infinite number exactly if a numeral of its text overflows. -/
theorem Query.exists_infinite_iff
    {limits : Limits} {source : String} {query : Query}
    (reads : parseWithin limits source = .ok query) :
    (∃ number ∈ query.numbers, number.isFinite = false) ↔
      ∃ token ∈ (TokenStream.ofSource source limits.maxLength).tokens,
        ∃ numeral : Numeral, token.text = numeral.text ∧ numeral.Overflows := by
  obtain ⟨_, phrase⟩ := TokenStream.phrase_of_query_ofSource reads
  have sameRanks := congrArg (Decimal.infinityRank ∈ ·) phrase.sayDecimals
  simp only [List.mem_filterMap, eq_iff_iff] at sameRanks
  simp only [Number.isFinite_eq_false_iff]
  rw [← sameRanks]
  constructor
  · rintro ⟨token, isIn, isInfinite⟩
    obtain ⟨value, isNumber, isRank⟩ := TokenContent.rank?_eq_some_iff.mp isInfinite
    obtain ⟨numeral, isText, writes⟩ :=
      (TokenStream.isScanned_of_mem isIn).exists_numeral isNumber
    refine ⟨token, isIn, numeral, isText, (Numeral.isFinite_eq_false_iff writes).mp ?_⟩
    exact Number.isFinite_eq_false_iff.mpr isRank
  · rintro ⟨token, isIn, numeral, isText, overflows⟩
    obtain ⟨value, writes, isNumber⟩ :=
      (TokenStream.isScanned_of_mem isIn).number_of_text isText
    have isInfinite := (Numeral.isFinite_eq_false_iff writes).mpr overflows
    exact
      ⟨token, isIn,
        TokenContent.rank?_eq_some_iff.mpr
          ⟨value, isNumber, Number.isFinite_eq_false_iff.mp isInfinite⟩⟩

/--
A numeral gives the token of its number, or it is a whole number without 64 bits
and gives the error at its first digit.  The number is infinite exactly if the
numeral has a point and overflows; so a query that is read has an infinite number
exactly if such a numeral is in its text.
-/
theorem Numeral.infinite_iff_overflows (limits : Limits) (source : String) :
    (∀ (numeral : Numeral) (lexer : Lexer) (rest : List Char),
        numeral.EndsAt rest →
          (skipTrivia lexer.rest).2 = numeral.lexeme ++ rest →
            (numeral.IsOutOfRange ∧
                lexer.nextToken.1 =
                  .error (.lex (lexer.position.after (skipTrivia lexer.rest).1)
                    (.numberOutOfRange numeral.lexeme))) ∨
              (¬ numeral.IsOutOfRange ∧
                ∃ value, numeral.Writes value ∧
                  (value.isFinite = false ↔ numeral.Overflows) ∧
                  lexer.nextToken.1 =
                    .ok ⟨.number value, numeral.text,
                      lexer.position.after (skipTrivia lexer.rest).1⟩)) ∧
      ∀ query : Query, Query.parseWithin limits source = .ok query →
        ((∃ number ∈ query.numbers, number.isFinite = false) ↔
          ∃ token ∈ (TokenStream.ofSource source limits.maxLength).tokens,
            ∃ numeral : Numeral, token.text = numeral.text ∧ numeral.Overflows) := by
  refine ⟨fun numeral lexer rest ends isAt => ?_, fun _ => Query.exists_infinite_iff⟩
  rcases nextToken_lexeme ends isAt with ⟨value, writes, isRead⟩ | isRefused
  · exact
      Or.inr
        ⟨not_isOutOfRange_of_writes writes, value, writes, isFinite_eq_false_iff writes, isRead⟩
  · exact Or.inl isRefused

/-- A decimal with digits on both sides of its point. -/
def Numeral.half : Numeral where
  whole := ['2']
  fraction := ['5']
  hasWhole := List.cons_ne_nil _ _
  isWhole := List.forall_mem_singleton.mpr rfl
  isFraction := List.forall_mem_singleton.mpr rfl

theorem Numeral.infinite_iff_overflows_half :
    (∃ value, half.Writes value ∧ value.isFinite = true ∧
        (Lexer.new "2.5" none).nextToken.1 = .ok ⟨.number value, "2.5", .start⟩) ∧
      ∃ query, Query.parseWithin ⟨64, none⟩ "SELECT max(2) FROM sale" = .ok query ∧
        ¬ ∃ token ∈ (TokenStream.ofSource "SELECT max(2) FROM sale" none).tokens,
          ∃ numeral : Numeral, token.text = numeral.text ∧ numeral.Overflows := by
  obtain ⟨isRead, isInText⟩ :=
    Numeral.infinite_iff_overflows ⟨64, none⟩ "SELECT max(2) FROM sale"
  have notOutOfRange : ¬ half.IsOutOfRange := fun isTooLarge => nomatch isTooLarge.1
  have notOverflows : ¬ half.Overflows := fun overflows => absurd overflows.2 (by decide +kernel)
  let query : Query :=
    { select := [⟨"max", [.literal (.number (.integer 2))], none⟩], sources := ["sale"] }
  have reads : Query.parseWithin ⟨64, none⟩ "SELECT max(2) FROM sale" = .ok query := by cbv
  refine ⟨?_, query, reads, ?_⟩
  · rcases isRead half (Lexer.new "2.5" none) [] half.endsAt_nil (by cbv) with
      ⟨isTooLarge, _⟩ | ⟨_, value, writes, isInfinite, isToken⟩
    · exact absurd isTooLarge notOutOfRange
    · have isStart :
          (Lexer.new "2.5" none).position.after (skipTrivia (Lexer.new "2.5" none).rest).1 =
            .start := by
        cbv
      rw [isStart] at isToken
      refine ⟨value, writes, ?_, isToken⟩
      cases isFinite : value.isFinite with
      | true => rfl
      | false => exact absurd (isInfinite.mp isFinite) notOverflows
  · rw [← isInText query reads]
    rintro ⟨number, isIn, isInfinite⟩
    obtain rfl := List.mem_singleton.mp isIn
    cases isInfinite

/-- A one with more zeros behind it than a number can have, and a point. -/
def Numeral.huge : Numeral where
  whole := '1' :: List.replicate 309 '0'
  fraction := ['0']
  hasWhole := List.cons_ne_nil _ _
  isWhole :=
    List.forall_mem_cons.mpr ⟨rfl, fun _ isIn => List.eq_of_mem_replicate isIn ▸ rfl⟩
  isFraction := List.forall_mem_singleton.mpr rfl

/-- A condition that compares with a number that overflows. -/
def hugeComparison : List Char :=
  "SELECT count(*) FROM sale WHERE x = ".toList ++ Numeral.huge.lexeme

/-- A decimal that overflows is accepted, and the text of the query has a name in its place. -/
theorem Query.accepts_hugeComparison :
    ∃ query, parseWithin ⟨64, none⟩ (String.ofList hugeComparison) = .ok query ∧
      (∃ number ∈ query.numbers, number.isFinite = false) ∧
      query.text = "SELECT count(*) FROM sale WHERE x = inf" := by
  have parsed :
      parseWithin ⟨64, none⟩ (String.ofList hugeComparison) =
        (TokenStream.ofItems (Lexer.mk hugeComparison .start none .fresh).items).query 64 := by
    unfold parseWithin TokenStream.ofSource Lexer.new
    rw [String.toList_ofList]
  have isRead :
      (match (TokenStream.ofItems (Lexer.mk hugeComparison .start none .fresh).items).query 64 with
        | .ok query =>
            query.numbers.any (fun number => !number.isFinite) &&
              query.text == "SELECT count(*) FROM sale WHERE x = inf"
        | .error _ => false) = true := by
    decide +kernel
  rw [parsed]
  split at isRead
  · rename_i query isQuery
    obtain ⟨hasInfinite, isText⟩ := Bool.and_eq_true_iff.mp isRead
    obtain ⟨number, isIn, isInfinite⟩ := List.any_eq_true.mp hasInfinite
    exact ⟨query, isQuery, ⟨number, isIn, by simpa using isInfinite⟩, eq_of_beq isText⟩
  · cases isRead

end EventQuery
