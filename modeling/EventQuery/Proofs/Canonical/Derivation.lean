import EventQuery.Proofs.Canonical.Legibility
import EventQuery.Proofs.Canonical.Nesting

/-!
# Canonical text derives what it was made of

The tokens of a canonical text are a phrase of the expression or query that the
text was made of.  An operand without parentheses binds at least as tightly as
its place demands, so its phrase loosens to the level of the place; an operand
in parentheses is a group, which fits everywhere.
-/

namespace EventQuery

open Grammar Piece

/-! ## Tokens of single pieces -/

theorem not_boolean_of_isPlainName {name : String} (isPlain : isPlainName name = true) :
    Text.agreeIgnoringCase name "true" = false ∧
      Text.agreeIgnoringCase name "false" = false := by
  unfold isPlainName at isPlain
  split at isPlain
  · cases isPlain
  · simp only [Bool.and_eq_true, Bool.not_eq_true'] at isPlain
    exact ⟨isPlain.1.1.2, isPlain.1.2⟩

theorem not_reserved_of_isPlainName {name : String} {word : Keyword}
    (isPlain : isPlainName name = true)
    (isKeyword : Keyword.ofText? name = some word) :
    word.isReserved = false := by
  unfold isPlainName at isPlain
  split at isPlain
  · cases isPlain
  · simpa [isKeyword] using (Bool.and_eq_true_iff.mp isPlain).2

/-- A written name stands for itself, and never for a truth value. -/
theorem name?_of_readsAs {name : String} {token : Token}
    (reads : (Piece.name name).ReadsAs token.content)
    (isSpelled : token.text = (Piece.name name).text) :
    token.boolean? = none ∧ token.name? = some name := by
  obtain ⟨content, text, position⟩ := token
  obtain rfl : text = nameText name := isSpelled
  have reads : (Piece.name name).ReadsAs content := reads
  cases reads with
  | plainName isPlain _ =>
      obtain ⟨isNoTrue, isNoFalse⟩ := not_boolean_of_isPlainName isPlain
      exact ⟨by simp [Token.boolean?, isNoTrue, isNoFalse], rfl⟩
  | keywordName isPlain isKeyword =>
      have isContextual := not_reserved_of_isPlainName isPlain isKeyword
      exact ⟨rfl, by simp [Token.name?, isContextual, nameText, isPlain]⟩
  | quotedName => exact ⟨rfl, rfl⟩

theorem boolean?_of_readsAs {value : Bool} {token : Token}
    (reads : (Piece.boolean value).ReadsAs token.content) :
    token.boolean? = some value := by
  have isNoTrue : Text.agreeIgnoringCase "false" "true" = false :=
    Bool.eq_false_iff.mpr fun agrees =>
      absurd (Text.agreeIgnoringCase_iff.mp agrees) (by decide +kernel)
  have isSame (text : String) : Text.agreeIgnoringCase text text = true :=
    beq_self_eq_true _
  generalize isContent : token.content = content at reads
  cases reads
  cases value <;> simp [Token.boolean?, isContent, isNoTrue, isSame]

/-- The tokens of a number: one, or a minus sign and the opposite number. -/
theorem tokens_of_number {number : Number} {tokens : List Token}
    (isWritable : number.IsWritable)
    (areRead : AreReadAs number.pieces tokens) :
    (number.isNegative = false ∧
        ∃ token : Token, tokens = [token] ∧ token.content = .number number) ∨
      (number.isNegative = true ∧
        ∃ (sign token : Token) (unsigned : Number),
          tokens = [sign, token] ∧ sign.content = .arithmetic .subtract ∧
            token.content = .number unsigned ∧ unsigned.negate? = some number) := by
  obtain ⟨unsigned, reads, isOpposite, isSame⟩ := Number.exists_unsigned isWritable
  rw [Number.pieces_eq] at areRead
  have isNoSpace : number.unsignedPiece ≠ .space := by
    cases number <;> simp [Number.unsignedPiece]
  cases isNegative : number.isNegative with
  | false =>
      rw [isNegative] at areRead
      obtain ⟨token, rfl, tokenReads, _⟩ :=
        (areReadAs_single_iff isNoSpace).mp areRead
      rw [isSame isNegative] at reads
      exact Or.inl ⟨rfl, token, rfl, tokenReads.unique reads⟩
  | true =>
      rw [isNegative] at areRead
      obtain ⟨sign, rest, rfl, signReads, _, restRead⟩ :=
        (areReadAs_cons_iff (by simp)).mp areRead
      obtain ⟨token, rfl, tokenReads, _⟩ :=
        (areReadAs_single_iff isNoSpace).mp restRead
      exact
        Or.inr
          ⟨rfl, sign, token, unsigned, rfl, signReads.unique .arithmetic,
            tokenReads.unique reads, isOpposite isNegative⟩

/-! ## Lists -/

theorem separated_of_areReadAs {α : Type}
    {Item : List Token → α → Prop} {row : α → List Piece}
    {values : List α} {tokens : List Token}
    (isNonempty : values ≠ [])
    (item :
      ∀ value ∈ values, ∀ tokens, AreReadAs (row value) tokens → Item tokens value)
    (areRead : AreReadAs (Piece.separated (values.map row)) tokens) :
    Separated Item tokens values := by
  induction values generalizing tokens with
  | nil => exact absurd rfl isNonempty
  | cons value values ih =>
      obtain ⟨firstItem, otherItems⟩ := List.forall_mem_cons.mp item
      cases values with
      | nil => exact .last (firstItem tokens areRead)
      | cons second others =>
          rw [List.map_cons, List.map_cons, Piece.separated, List.append_assoc] at areRead
          · obtain ⟨left, right, rfl, leftRead, rightRead⟩ := areReadAs_append_iff.mp areRead
            obtain ⟨comma, rest, rfl, reads, _, restRead⟩ :=
              (areReadAs_cons_iff (by simp)).mp rightRead
            exact
              .more (firstItem left leftRead) (reads.unique .comma)
                (ih (by simp) otherItems (areReadAs_space_iff.mp restRead))
          · simp

theorem literalPhrase_of_areReadAs {value : Literal} {tokens : List Token}
    (areWritable : ∀ number ∈ value.numbers, number.IsWritable)
    (areRead : AreReadAs value.pieces tokens) :
    LiteralPhrase tokens value := by
  cases value with
  | number number =>
      have isWritable := areWritable number (List.mem_singleton_self _)
      rcases tokens_of_number isWritable areRead with
        ⟨_, token, rfl, means⟩ | ⟨_, sign, token, unsigned, rfl, isMinus, means, isOpposite⟩
      · exact .number means
      · exact .opposite isMinus means isOpposite
  | string value =>
      obtain ⟨token, rfl, reads, _⟩ :=
        (areReadAs_single_iff (by simp)).mp areRead
      exact .string (reads.unique .string)
  | boolean value =>
      obtain ⟨token, rfl, reads, _⟩ :=
        (areReadAs_single_iff (by simp)).mp areRead
      exact .boolean (boolean?_of_readsAs reads)

/-! ## Operands -/

/-- A constant is a phrase, nested once if it has a sign. -/
theorem phrase_of_literal {value : Literal} {tokens : List Token}
    (areWritable : ∀ number ∈ value.numbers, number.IsWritable)
    (areRead : AreReadAs value.pieces tokens) :
    Phrase (Expression.literal value).nesting (Expression.literal value).level tokens
      (.literal value) := by
  cases value with
  | number number =>
      have isWritable := areWritable number (List.mem_singleton_self _)
      rw [Expression.nesting, Expression.level]
      rcases tokens_of_number isWritable areRead with
        ⟨isUnsigned, token, rfl, means⟩ |
          ⟨isSigned, sign, token, unsigned, rfl, isMinus, means, isOpposite⟩
      · rw [isUnsigned]
        exact .number means
      · rw [isSigned]
        exact .opposite isMinus (.loosen (.number means)) isOpposite
  | string value =>
      obtain ⟨token, rfl, reads, _⟩ :=
        (areReadAs_single_iff (by simp)).mp areRead
      exact .string (reads.unique .string)
  | boolean value =>
      obtain ⟨token, rfl, reads, _⟩ :=
        (areReadAs_single_iff (by simp)).mp areRead
      exact .boolean (boolean?_of_readsAs reads)

/-- An operand fits its place: it binds tightly enough, or it is a group. -/
theorem phrase_of_enclosed
    {expression : Expression} {inParentheses : Bool} {level : Level} {tokens : List Token}
    (isNoStar : expression ≠ .wildcard)
    (inner :
      ∀ tokens, AreReadAs expression.pieces tokens →
        Phrase expression.nesting expression.level tokens expression)
    (fits : inParentheses = false → level.strength ≤ expression.precedence)
    (areRead : AreReadAs (Piece.enclosed inParentheses expression.pieces) tokens) :
    Phrase (enclosedNesting inParentheses expression.nesting) level tokens expression := by
  have isTight := Expression.precedence_le_strength isNoStar
  cases inParentheses with
  | false => exact (inner tokens areRead).loosenTo (Nat.le_trans (fits rfl) isTight)
  | true =>
      obtain ⟨front, back, rfl, frontRead, backRead⟩ := areReadAs_append_iff.mp areRead
      obtain ⟨opening, inside, rfl, opens, _, insideRead⟩ :=
        (areReadAs_cons_iff (by simp)).mp frontRead
      obtain ⟨closing, rfl, closes, _⟩ :=
        (areReadAs_single_iff (by simp)).mp backRead
      have isGroup : Level.disjunction.strength ≤ expression.level.strength :=
        Nat.le_trans expression.precedence_pos isTight
      have phrase := (inner inside insideRead).loosenTo isGroup
      exact
        (Phrase.group (opens.unique .leftParenthesis) phrase
          (closes.unique .rightParenthesis)).loosenTo level.strength_le_eight

/-! ## Expressions -/

theorem BinaryOperator.phrase_of_areReadAs
    {operator : BinaryOperator} {left right : Expression} {nesting : Nat}
    {leftTokens rightTokens : List Token} {word : Token}
    (leftPhrase : Phrase nesting operator.leftLevel leftTokens left)
    (reads : operator.piece.ReadsAs word.content)
    (rightPhrase : Phrase nesting operator.rightLevel rightTokens right) :
    Phrase nesting operator.level (leftTokens ++ word :: rightTokens)
      (.binary operator left right) := by
  rcases operator with connective | comparison | operator
  · refine .connected leftPhrase ?_ rightPhrase
    cases connective <;> exact reads.unique .keyword
  · exact .compared leftPhrase (reads.unique .comparison) rightPhrase
  · exact .computed leftPhrase (reads.unique .arithmetic) rightPhrase

theorem BinaryOperator.piece_ne_space (operator : BinaryOperator) :
    operator.piece ≠ .space := by
  rcases operator with connective | _ | _
  · cases connective <;> exact Piece.noConfusion
  · exact Piece.noConfusion
  · exact Piece.noConfusion

theorem arguments_of_areReadAs {arguments : List Expression} {tokens : List Token}
    (isNonempty : arguments ≠ [])
    (inner :
      ∀ argument ∈ arguments, argument ≠ .wildcard → ∀ tokens,
        AreReadAs argument.pieces tokens →
          Phrase argument.nesting argument.level tokens argument)
    (areRead : AreReadAs (Piece.separated (Expression.listPieces arguments)) tokens) :
    Arguments (Expression.listNesting arguments) tokens arguments := by
  rw [Expression.listPieces_eq_map] at areRead
  refine arguments_of_separated (separated_of_areReadAs isNonempty ?_ areRead)
  intro argument isIn tokens argumentRead
  have isWithin := Expression.nesting_le_listNesting isIn
  by_cases isStar : argument = .wildcard
  · subst isStar
    obtain ⟨token, rfl, reads, _⟩ :=
      (areReadAs_single_iff (by simp)).mp argumentRead
    exact .star (reads.unique .arithmetic)
  · have phrase := inner argument isIn isStar tokens argumentRead
    exact (phrase.mono isWithin).loosenTo (Nat.zero_le _)

/-- A call is read as its name, and its arguments in parentheses. -/
theorem phrase_of_call
    {function : String} {arguments : List Expression} {tokens : List Token}
    (inner :
      ∀ argument ∈ arguments, argument ≠ .wildcard → ∀ tokens,
        AreReadAs argument.pieces tokens →
          Phrase argument.nesting argument.level tokens argument)
    (areRead : AreReadAs (Expression.call function arguments).pieces tokens) :
    Phrase (Expression.call function arguments).nesting .primary tokens
      (.call function arguments) := by
  rw [Expression.pieces] at areRead
  obtain ⟨front, back, rfl, frontRead, backRead⟩ := areReadAs_append_iff.mp areRead
  obtain ⟨token, tail, rfl, reads, isSpelled, tailRead⟩ :=
    (areReadAs_cons_iff (by simp)).mp frontRead
  obtain ⟨opening, inside, rfl, opens, _, insideRead⟩ :=
    (areReadAs_cons_iff (by simp)).mp tailRead
  obtain ⟨closing, rfl, closes, _⟩ :=
    (areReadAs_single_iff (by simp)).mp backRead
  obtain ⟨isNoBoolean, isFunction⟩ := name?_of_readsAs reads isSpelled
  have opens := opens.unique .leftParenthesis
  have closes := closes.unique .rightParenthesis
  by_cases isEmpty : arguments = []
  · subst isEmpty
    obtain rfl := areReadAs_nil_iff.mp insideRead
    exact .emptyCall isNoBoolean isFunction opens closes
  · have argumentPhrases := arguments_of_areReadAs isEmpty inner insideRead
    exact .call isNoBoolean isFunction opens argumentPhrases closes

/-- The word NOT of a test, if there is one, and the rest of the test. -/
theorem maybeNot_of_areReadAs {negated : Bool} {test : List Piece} {tokens : List Token}
    (areRead :
      AreReadAs ((if negated then [.keyword .notWord, .space] else []) ++ test) tokens) :
    ∃ words rest, tokens = words ++ rest ∧ MaybeNot negated words ∧ AreReadAs test rest := by
  cases negated with
  | false => exact ⟨[], tokens, rfl, .plain, areRead⟩
  | true =>
      obtain ⟨word, rest, rfl, reads, _, restRead⟩ :=
        (areReadAs_cons_iff (by simp)).mp areRead
      exact
        ⟨[word], rest, rfl, .negated (reads.unique .keyword),
          areReadAs_space_iff.mp restRead⟩

/-- The name in front of a test is a field. -/
theorem phrase_of_test
    {name : String} {negated : Bool} {test : List Piece} {expression : Expression}
    {tokens : List Token}
    (isTest :
      ∀ words rest, MaybeNot negated words → AreReadAs test rest →
        TestPhrase name (words ++ rest) expression)
    (areRead :
      AreReadAs
        (.name name :: .space ::
          ((if negated then [.keyword .notWord, .space] else []) ++ test))
        tokens) :
    Phrase 0 .comparison tokens expression := by
  obtain ⟨nameToken, tail, rfl, nameReads, isSpelled, tailRead⟩ :=
    (areReadAs_cons_iff (by simp)).mp areRead
  obtain ⟨words, rest, rfl, mayNegate, restRead⟩ :=
    maybeNot_of_areReadAs (areReadAs_space_iff.mp tailRead)
  obtain ⟨isNoBoolean, isName⟩ := name?_of_readsAs nameReads isSpelled
  have fieldPhrase : Phrase 0 .primary [nameToken] (.field name) := .field isNoBoolean isName
  exact
    .tested (fieldPhrase.loosenTo (by decide)) (isTest words rest mayNegate restRead)

/-- A membership is read as a name, and a list of constants to test it against. -/
theorem phrase_of_member
    {name : String} {values : List Literal} {negated : Bool} {tokens : List Token}
    (isNonempty : values ≠ [])
    (areWritable : ∀ number ∈ values.flatMap Literal.numbers, number.IsWritable)
    (areRead : AreReadAs (Expression.member name values negated).pieces tokens) :
    Phrase 0 .comparison tokens (.member name values negated) := by
  rw [Expression.pieces, List.append_assoc, List.append_assoc] at areRead
  refine phrase_of_test (fun words rest mayNegate restRead => ?_) areRead
  obtain ⟨word, tail, rfl, isIn, _, tailRead⟩ :=
    (areReadAs_cons_iff (by simp)).mp restRead
  obtain ⟨opening, tail, rfl, opens, _, tailRead⟩ :=
    (areReadAs_cons_iff (by simp)).mp (areReadAs_space_iff.mp tailRead)
  obtain ⟨inside, back, rfl, insideRead, backRead⟩ :=
    (@areReadAs_append_iff (Piece.separated (values.map Literal.pieces)) _ _).mp tailRead
  obtain ⟨closing, rfl, closes, _⟩ :=
    (areReadAs_single_iff (by simp)).mp backRead
  have literals :=
    separated_of_areReadAs isNonempty
      (fun value isValue tokens valueRead =>
        literalPhrase_of_areReadAs
          (fun number isNumber =>
            areWritable number (List.mem_flatMap.mpr ⟨value, isValue, isNumber⟩))
          valueRead)
      insideRead
  exact
    .membership mayNegate (isIn.unique .keyword) (opens.unique .leftParenthesis) literals
      (closes.unique .rightParenthesis)

/-- A match is read as a name, and a pattern to test it against. -/
theorem phrase_of_matching
    {name pattern : String} {negated : Bool} {tokens : List Token}
    (areRead : AreReadAs (Expression.matching name pattern negated).pieces tokens) :
    Phrase 0 .comparison tokens (.matching name pattern negated) := by
  rw [Expression.pieces] at areRead
  refine phrase_of_test (fun words rest mayNegate restRead => ?_) areRead
  obtain ⟨word, tail, rfl, isLike, _, tailRead⟩ :=
    (areReadAs_cons_iff (by simp)).mp restRead
  obtain ⟨token, rfl, reads, _⟩ :=
    (areReadAs_single_iff (by simp)).mp (areReadAs_space_iff.mp tailRead)
  exact .pattern mayNegate (isLike.unique .keyword) (reads.unique .string)

namespace Expression

/-- The tokens of the canonical text of an expression are a phrase of it. -/
theorem phrase_of_areReadAs {expression : Expression} {tokens : List Token}
    (isWellFormed : expression.IsWellFormed)
    (areWritable : ∀ number ∈ expression.numbers, number.IsWritable)
    (areRead : AreReadAs expression.pieces tokens) :
    Phrase expression.nesting expression.level tokens expression := by
  induction isWellFormed generalizing tokens with
  | literal => exact phrase_of_literal areWritable areRead
  | field isName =>
      obtain ⟨token, rfl, reads, isSpelled⟩ :=
        (areReadAs_single_iff (by simp)).mp areRead
      obtain ⟨isNoBoolean, isName⟩ := name?_of_readsAs reads isSpelled
      exact .field isNoBoolean isName
  | @call function arguments isName inner ih =>
      refine phrase_of_call (fun argument isIn isNoStar tokens argumentRead => ?_) areRead
      have argumentWritable : ∀ number ∈ argument.numbers, number.IsWritable :=
        fun number isNumber =>
          areWritable number (mem_listNumbers_iff.mpr ⟨argument, isIn, isNumber⟩)
      exact ih argument isIn isNoStar argumentWritable argumentRead
  | @binary operator left right leftInner rightInner leftIh rightIh =>
      obtain ⟨leftWritable, rightWritable⟩ := List.forall_mem_append.mp areWritable
      rw [pieces, List.append_assoc] at areRead
      obtain ⟨leftTokens, tail, rfl, leftRead, tailRead⟩ := areReadAs_append_iff.mp areRead
      obtain ⟨word, rest, rfl, reads, _, restRead⟩ :=
        (areReadAs_cons_iff operator.piece_ne_space).mp (areReadAs_space_iff.mp tailRead)
      have leftPhrase :=
        @phrase_of_enclosed left _ operator.leftLevel leftTokens leftInner.ne_wildcard
          (fun _ => leftIh leftWritable)
          (fun isOpen => by
            rw [operator.strength_leftLevel]
            exact Nat.not_lt.mp (of_decide_eq_false isOpen))
          leftRead
      have rightPhrase :=
        @phrase_of_enclosed right _ operator.rightLevel rest rightInner.ne_wildcard
          (fun _ => rightIh rightWritable)
          (fun isOpen => by
            rw [operator.strength_rightLevel]
            exact Nat.not_lt.mp (of_decide_eq_false isOpen))
          (areReadAs_space_iff.mp restRead)
      exact
        operator.phrase_of_areReadAs (leftPhrase.mono (Nat.le_max_left _ _)) reads
          (rightPhrase.mono (Nat.le_max_right _ _))
  | @not operand inner ih =>
      obtain ⟨word, rest, rfl, reads, _, restRead⟩ :=
        (areReadAs_cons_iff (by simp)).mp areRead
      have phrase :=
        @phrase_of_enclosed operand _ .negation rest inner.ne_wildcard
          (fun _ => ih areWritable) (fun isOpen => Nat.not_lt.mp (of_decide_eq_false isOpen))
          (areReadAs_space_iff.mp restRead)
      exact .negation (reads.unique .keyword) phrase
  | @negate operand inner isNoNumber ih =>
      obtain ⟨sign, rest, rfl, reads, _, restRead⟩ :=
        (areReadAs_cons_iff (by simp)).mp areRead
      have phrase :=
        @phrase_of_enclosed operand _ .signed rest inner.ne_wildcard
          (fun _ => ih areWritable)
          (fun isOpen =>
            Nat.not_lt.mp (of_decide_eq_false (Bool.or_eq_false_iff.mp isOpen).2))
          restRead
      exact
        .minus (reads.unique .arithmetic) phrase fun value isNumber =>
          absurd isNumber (isNoNumber value)
  | member isName isNonempty => exact phrase_of_member isNonempty areWritable areRead
  | matching isName => exact phrase_of_matching areRead

end Expression

/-! ## Clauses -/

theorem amount?_of_readsAs {amount : UInt64} {token : Token}
    (isAmount : IsAmount amount)
    (reads : (Piece.whole amount.toNat).ReadsAs token.content) :
    token.amount? = some amount := by
  generalize isContent : token.content = content at reads
  cases reads with
  | whole isValue =>
      obtain ⟨whole, rfl, value⟩ := Number.ofInt?_eq_some_iff.mp isValue
      have isPositive : 0 < whole.toInt := by
        have := isAmount.1
        omega
      have same : whole.toUInt64 = amount := by
        refine UInt64.toNat_inj.mp ?_
        rw [Int64.toNat_toUInt64_of_le (Int64.le_iff_toInt_le.mpr (Int.le_of_lt isPositive)),
          Int64.toNatClampNeg, value, Int.toNat_natCast]
      exact Token.amount?_eq_some_iff.mpr ⟨whole, isContent, isPositive, same⟩

/-- What computes a column binds as tightly as a sum. -/
theorem Expression.CallArithmetic.sum_le_precedence
    {hasCall : Bool} {expression : Expression}
    (arithmetic : expression.CallArithmetic hasCall) :
    Level.sum.strength ≤ expression.precedence := by
  cases arithmetic with
  | @arithmetic operator => cases operator <;> exact of_decide_eq_true rfl
  | _ => exact of_decide_eq_true rfl

theorem columnPhrase_of_areReadAs {item : SelectItem} {tokens : List Token}
    (isWellFormed : item.IsWellFormed)
    (areWritable : ∀ number ∈ Expression.listNumbers item.arguments, number.IsWritable)
    (areRead : AreReadAs item.pieces tokens) :
    ColumnPhrase item.expression.nesting tokens item := by
  obtain ⟨expression, arithmetic, computes, inner⟩ := isWellFormed
  have sum {tokens : List Token} (areRead : AreReadAs item.columnPieces tokens) :
      Phrase item.expression.nesting .sum tokens expression := by
    rw [SelectItem.columnPieces_eq,
      SelectItem.expression_eq_of_computes arithmetic computes] at *
    have phrase :=
      Expression.phrase_of_areReadAs inner (computes.listNumbers_eq ▸ areWritable) areRead
    have isTight := Expression.precedence_le_strength inner.ne_wildcard
    exact phrase.loosenTo (Nat.le_trans arithmetic.sum_le_precedence isTight)
  obtain ⟨function, arguments, aliasName⟩ := item
  cases aliasName with
  | none => exact .unnamed (sum areRead) arithmetic computes
  | some name =>
      obtain ⟨column, tail, rfl, columnRead, tailRead⟩ := areReadAs_append_iff.mp areRead
      obtain ⟨word, rest, rfl, isAs, _, restRead⟩ :=
        (areReadAs_cons_iff (by simp)).mp (areReadAs_space_iff.mp tailRead)
      obtain ⟨token, rfl, reads, _⟩ :=
        (areReadAs_single_iff (by simp)).mp (areReadAs_space_iff.mp restRead)
      have isString : token.string? = some name :=
        Token.string?_eq_some_iff.mpr (reads.unique .string)
      exact
        .named (sum columnRead) arithmetic computes (isAs.unique .keyword)
          (Or.inl isString)

theorem timePhrase_of_areReadAs {spec : TimeSpec} {tokens : List Token}
    (isWellFormed : spec.IsWellFormed)
    (areRead : AreReadAs spec.pieces tokens) :
    TimePhrase tokens spec := by
  cases spec with
  | ago amount unit =>
      obtain ⟨token, tail, rfl, reads, _, tailRead⟩ :=
        (areReadAs_cons_iff (by simp)).mp areRead
      obtain ⟨unitToken, rest, rfl, unitReads, _, restRead⟩ :=
        (areReadAs_cons_iff (by simp)).mp (areReadAs_space_iff.mp tailRead)
      obtain ⟨word, rfl, isAgo, _⟩ :=
        (areReadAs_single_iff (by simp)).mp (areReadAs_space_iff.mp restRead)
      have isUnit : unitToken.timeUnit? = some unit :=
        Token.timeUnit?_eq_some_iff.mpr (unitReads.unique .timeUnit)
      exact .ago (amount?_of_readsAs isWellFormed reads) isUnit (isAgo.unique .keyword)
  | anchor point =>
      obtain ⟨token, rfl, reads, _⟩ := (areReadAs_single_iff (by simp)).mp areRead
      exact .anchor (reads.unique .keyword)
  | timestamp text =>
      obtain ⟨token, rfl, reads, _⟩ := (areReadAs_single_iff (by simp)).mp areRead
      exact .timestamp (reads.unique .string)

theorem bucketPhrase_of_areReadAs {bucketing : Bucketing} {tokens : List Token}
    (isWellFormed : bucketing.IsWellFormed)
    (areRead : AreReadAs bucketing.pieces tokens) :
    BucketPhrase tokens bucketing := by
  cases bucketing with
  | auto =>
      obtain ⟨token, rfl, reads, _⟩ := (areReadAs_single_iff (by simp)).mp areRead
      exact .auto (reads.unique .keyword)
  | every amount unit =>
      obtain ⟨token, tail, rfl, reads, _, tailRead⟩ :=
        (areReadAs_cons_iff (by simp)).mp areRead
      obtain ⟨unitToken, rfl, unitReads, _⟩ :=
        (areReadAs_single_iff (by simp)).mp (areReadAs_space_iff.mp tailRead)
      have isUnit : unitToken.timeUnit? = some unit :=
        Token.timeUnit?_eq_some_iff.mpr (unitReads.unique .timeUnit)
      exact .every (amount?_of_readsAs isWellFormed reads) isUnit

theorem namePhrases_of_areReadAs {names : List String} {tokens : List Token}
    (isNonempty : names ≠ [])
    (areRead : AreReadAs (Query.namePieces names) tokens) :
    Separated NamePhrase tokens names := by
  refine separated_of_areReadAs isNonempty (fun name _ tokens nameRead => ?_) areRead
  obtain ⟨token, rfl, reads, isSpelled⟩ := (areReadAs_single_iff (by simp)).mp nameRead
  exact .name (name?_of_readsAs reads isSpelled).2

theorem limitPhrase_of_areReadAs {amount : UInt64} {tokens : List Token}
    (isAmount : IsAmount amount)
    (areRead : AreReadAs [.whole amount.toNat] tokens) :
    AmountPhrase tokens amount := by
  obtain ⟨token, rfl, reads, _⟩ := (areReadAs_single_iff (by simp)).mp areRead
  exact .amount (amount?_of_readsAs isAmount reads)

/-- A clause starts with its keywords. -/
theorem heading_of_areReadAs
    {keywords : List Keyword} {body : List Piece} {tokens : List Token}
    (areRead : AreReadAs (Query.clausePieces keywords body) tokens) :
    ∃ heading rest,
      tokens = heading ++ rest ∧ heading.map Token.content = keywords.map .keyword ∧
        AreReadAs body rest := by
  replace areRead := areReadAs_space_iff.mp areRead
  induction keywords generalizing tokens with
  | nil => exact ⟨[], tokens, rfl, rfl, areRead⟩
  | cons keyword keywords ih =>
      obtain ⟨word, others, rfl, reads, _, othersRead⟩ :=
        (areReadAs_cons_iff (by simp)).mp areRead
      obtain ⟨heading, rest, rfl, introduces, restRead⟩ :=
        ih (areReadAs_space_iff.mp othersRead)
      refine ⟨word :: heading, rest, rfl, ?_, restRead⟩
      rw [List.map_cons, List.map_cons, introduces, reads.unique .keyword]

theorem optionalPhrase_of_areReadAs {α : Type}
    {keywords : List Keyword} {pieces : α → List Piece} {Body : List Token → α → Prop}
    {value : Option α} {tokens : List Token}
    (body :
      ∀ present ∈ value, ∀ tokens, AreReadAs (pieces present) tokens → Body tokens present)
    (areRead : AreReadAs (Query.optionalPieces keywords pieces value) tokens) :
    OptionalPhrase keywords Body tokens value := by
  cases value with
  | none =>
      obtain rfl := areReadAs_nil_iff.mp areRead
      exact .absent
  | some present =>
      obtain ⟨heading, rest, rfl, introduces, restRead⟩ := heading_of_areReadAs areRead
      exact .present introduces (body present rfl rest restRead)

/-! ## Queries -/

theorem conditionPhrase_of_areReadAs {expression : Expression} {tokens : List Token}
    (isWellFormed : expression.IsWellFormed)
    (isCondition : expression.isCondition = true)
    (joinsConditions : expression.joinsConditions = true)
    (areWritable : ∀ number ∈ expression.numbers, number.IsWritable)
    (areRead : AreReadAs expression.pieces tokens) :
    ConditionPhrase expression.nesting tokens expression := by
  have phrase := expression.phrase_of_areReadAs isWellFormed areWritable areRead
  have isTight := Expression.precedence_le_strength isWellFormed.ne_wildcard
  exact
    { phrase := phrase.loosenTo (Nat.le_trans expression.precedence_pos isTight)
      isCondition := isCondition
      joinsConditions := joinsConditions }

/-- The tokens of the canonical text of a query are a phrase of it. -/
theorem Query.phrase_of_areReadAs {query : Query} {tokens : List Token}
    (isWellFormed : query.IsWellFormed)
    (areWritable : ∀ number ∈ query.numbers, number.IsWritable)
    (areRead : AreReadAs query.pieces tokens) :
    QueryPhrase query.nesting tokens query := by
  obtain ⟨columnsWritable, conditionWritable⟩ := List.forall_mem_append.mp areWritable
  simp only [pieces, areReadAs_append_iff] at areRead
  obtain ⟨_, timeseries, rfl, ⟨_, compareWith, rfl, ⟨_, upTo, rfl, ⟨_, since, rfl,
    ⟨_, limit, rfl, ⟨_, facet, rfl, ⟨_, condition, rfl, ⟨_, sources, rfl, selectRead,
    sourcesRead⟩, conditionRead⟩, facetRead⟩, limitRead⟩, sinceRead⟩, upToRead⟩,
    compareRead⟩, timeseriesRead⟩ := areRead
  obtain ⟨selectWord, select, rfl, isSelect, _, columnsRead⟩ :=
    (areReadAs_cons_iff (by simp)).mp selectRead
  obtain ⟨heading, names, rfl, introduces, namesRead⟩ := heading_of_areReadAs sourcesRead
  obtain ⟨fromWord, rfl, isFrom⟩ := List.map_eq_singleton_iff.mp introduces
  have selectPhrase : Separated (ColumnPhrase query.nesting) select query.select := by
    refine
      separated_of_areReadAs isWellFormed.selects (fun item isItem tokens itemRead => ?_)
        (areReadAs_space_iff.mp columnsRead)
    have itemWritable :
        ∀ number ∈ Expression.listNumbers item.arguments, number.IsWritable :=
      fun number isNumber =>
        columnsWritable number (List.mem_flatMap.mpr ⟨item, isItem, isNumber⟩)
    have column :=
      columnPhrase_of_areReadAs (isWellFormed.columns item isItem) itemWritable itemRead
    have isWithin : item.expression.nesting ≤ query.nesting :=
      Nat.le_trans (Expression.nesting_le_listNesting (List.mem_map_of_mem isItem))
        (Nat.le_max_left _ _)
    exact column.mono isWithin
  have conditionPhrase :
      OptionalPhrase [.whereWord] (ConditionPhrase query.nesting) condition
        query.condition := by
    refine
      optionalPhrase_of_areReadAs (fun expression isIn tokens expressionRead => ?_)
        conditionRead
    obtain ⟨inner, isCondition, joinsConditions⟩ := isWellFormed.condition expression isIn
    have isIn := Option.mem_toList.mpr isIn
    have phrase :=
      conditionPhrase_of_areReadAs inner isCondition joinsConditions
        (fun number isNumber =>
          conditionWritable number (List.mem_flatMap.mpr ⟨expression, isIn, isNumber⟩))
        expressionRead
    have isWithin : expression.nesting ≤ query.nesting :=
      Nat.le_trans (Expression.nesting_le_listNesting isIn) (Nat.le_max_right _ _)
    exact phrase.mono isWithin
  have clausePhrases : ClausePhrases query.nesting query _ :=
    .clauses conditionPhrase
      (optionalPhrase_of_areReadAs
        (fun names isIn _ => namePhrases_of_areReadAs (isWellFormed.facet names isIn).1)
        facetRead)
      (optionalPhrase_of_areReadAs
        (fun amount isIn _ => limitPhrase_of_areReadAs (isWellFormed.limit amount isIn))
        limitRead)
      (optionalPhrase_of_areReadAs
        (fun spec isIn _ => timePhrase_of_areReadAs (isWellFormed.since spec isIn))
        sinceRead)
      (optionalPhrase_of_areReadAs
        (fun spec isIn _ => timePhrase_of_areReadAs (isWellFormed.upTo spec isIn))
        upToRead)
      (optionalPhrase_of_areReadAs
        (fun spec isIn _ => timePhrase_of_areReadAs (isWellFormed.compareWith spec isIn))
        compareRead)
      (optionalPhrase_of_areReadAs
        (fun bucketing isIn _ =>
          bucketPhrase_of_areReadAs (isWellFormed.timeseries bucketing isIn))
        timeseriesRead)
  have phrase :=
    QueryPhrase.query (isSelect.unique .keyword) selectPhrase isFrom
      (namePhrases_of_areReadAs isWellFormed.hasSources namesRead) clausePhrases
  simpa using phrase

end EventQuery
