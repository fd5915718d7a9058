import EventQuery.Canonical.Query
import EventQuery.Proofs.Canonical.Lexing
import EventQuery.Proofs.Number
import EventQuery.Proofs.Query.WellFormed

/-!
# Canonical text is legible

Every piece of the canonical text of a query can be read, and no piece runs into
the one behind it.  The query may have any shape, as long as its names, numbers
and amounts can be written.  Spaces, commas and parentheses keep pieces apart; the
only pieces that touch without them are a minus sign and its operand, which
therefore must not start with a minus sign itself.
-/

namespace EventQuery

/-- A number with a text of its own: it is finite, and it has an opposite. -/
def Number.IsWritable (number : Number) : Prop :=
  number.isFinite = true ∧ number ≠ .integer Int64.minValue

namespace Piece

theorem isReadable_of_isSeparator {piece : Piece} (isSeparator : piece.isSeparator = true) :
    piece.IsReadable := by
  cases piece with
  | space => exact Or.inl rfl
  | comma => exact Or.inr ⟨_, .comma⟩
  | leftParenthesis => exact Or.inr ⟨_, .leftParenthesis⟩
  | rightParenthesis => exact Or.inr ⟨_, .rightParenthesis⟩
  | _ => cases isSeparator

theorem isReadable_name {name : String} (isName : IsName name) :
    (Piece.name name).IsReadable := by
  cases isPlain : isPlainName name with
  | false => exact Or.inr ⟨_, .quotedName isPlain isName⟩
  | true =>
      cases isKeyword : Keyword.ofText? name with
      | none => exact Or.inr ⟨_, .plainName isPlain isKeyword⟩
      | some word => exact Or.inr ⟨_, .keywordName isPlain isKeyword⟩

/-- Pieces that can be read and keep apart. -/
structure AreLegible (pieces : List Piece) : Prop where
  areReadable : ∀ piece ∈ pieces, piece.IsReadable
  isChain : pieces.IsChain MayTouch

namespace AreLegible

theorem nil : AreLegible [] :=
  ⟨fun _ isIn => absurd isIn List.not_mem_nil, .nil⟩

theorem single {piece : Piece} (isReadable : piece.IsReadable) : AreLegible [piece] :=
  ⟨List.forall_mem_singleton.mpr isReadable, .singleton piece⟩

theorem reads {piece : Piece} {content : TokenContent} (reads : piece.ReadsAs content) :
    AreLegible [piece] :=
  single (Or.inr ⟨content, reads⟩)

theorem left {first second : List Piece} (legible : AreLegible (first ++ second)) :
    AreLegible first :=
  ⟨fun piece isIn => legible.areReadable piece (List.mem_append_left second isIn),
    legible.isChain.left_of_append⟩

theorem right {first second : List Piece} (legible : AreLegible (first ++ second)) :
    AreLegible second :=
  ⟨fun piece isIn => legible.areReadable piece (List.mem_append_right first isIn),
    legible.isChain.right_of_append⟩

theorem append {first second : List Piece}
    (firstLegible : AreLegible first)
    (secondLegible : AreLegible second)
    (mayTouch : ∀ last ∈ first.getLast?, ∀ next ∈ second.head?, MayTouch last next) :
    AreLegible (first ++ second) := by
  refine ⟨fun piece isIn => ?_, firstLegible.isChain.append secondLegible.isChain mayTouch⟩
  rcases List.mem_append.mp isIn with isFirst | isSecond
  · exact firstLegible.areReadable piece isFirst
  · exact secondLegible.areReadable piece isSecond

/-- A separator keeps apart whatever stands on its two sides. -/
theorem around {first second : List Piece} {separator : Piece}
    (isSeparator : separator.isSeparator = true)
    (firstLegible : AreLegible first)
    (secondLegible : AreLegible second) :
    AreLegible (first ++ separator :: second) := by
  constructor
  · intro piece isIn
    rcases List.mem_append.mp isIn with isFirst | isLater
    · exact firstLegible.areReadable piece isFirst
    · rcases List.mem_cons.mp isLater with rfl | isSecond
      · exact isReadable_of_isSeparator isSeparator
      · exact secondLegible.areReadable piece isSecond
  · refine firstLegible.isChain.append ?_ fun _ _ other isHead => ?_
    · exact secondLegible.isChain.cons fun _ _ => Or.inl isSeparator
    · cases isHead
      exact Or.inr (Or.inl isSeparator)

/-- A minus sign may touch what does not start with another one. -/
theorem minus {pieces : List Piece}
    (isNoMinus : pieces.head? ≠ some (.arithmetic .subtract))
    (legible : AreLegible pieces) :
    AreLegible (.arithmetic .subtract :: pieces) := by
  constructor
  · intro piece isIn
    rcases List.mem_cons.mp isIn with rfl | isLater
    · exact Or.inr ⟨_, .arithmetic⟩
    · exact legible.areReadable piece isLater
  · refine legible.isChain.cons fun other isHead => Or.inr (Or.inr ⟨rfl, ?_⟩)
    rintro rfl
    exact isNoMinus isHead

theorem enclosed {inParentheses : Bool} {pieces : List Piece} (legible : AreLegible pieces) :
    AreLegible (Piece.enclosed inParentheses pieces) := by
  cases inParentheses with
  | false => exact legible
  | true =>
      have opened : AreLegible (.leftParenthesis :: pieces) := around rfl nil legible
      exact around rfl opened nil

theorem separated {rows : List (List Piece)} (legible : ∀ row ∈ rows, AreLegible row) :
    AreLegible (Piece.separated rows) := by
  fun_induction Piece.separated rows with
  | case1 => exact nil
  | case2 row => exact legible row List.mem_cons_self
  | case3 row rows _ ih =>
      obtain ⟨first, others⟩ := List.forall_mem_cons.mp legible
      rw [List.append_assoc]
      exact around rfl first (around rfl nil (ih others))

end AreLegible

end Piece

/-! ## Numbers and constants -/

namespace Number

/-- The piece of a number without its sign. -/
def unsignedPiece : Number → Piece
  | integer value => .whole value.toInt.natAbs
  | float value => .decimal value.rank

theorem pieces_eq (number : Number) :
    number.pieces = Piece.sign number.isNegative ++ [number.unsignedPiece] := by
  cases number <;> rfl

/-- The piece of a number is read as the number, or as its opposite if it has a sign. -/
theorem exists_unsigned {number : Number} (isWritable : number.IsWritable) :
    ∃ unsigned : Number,
      number.unsignedPiece.ReadsAs (.number unsigned) ∧
        (number.isNegative = true → unsigned.negate? = some number) ∧
        (number.isNegative = false → unsigned = number) := by
  obtain ⟨isFinite, isNotLeast⟩ := isWritable
  cases number with
  | integer value =>
      have above : Int64.minValue.toInt < value.toInt :=
        minValue_lt_toInt fun equal => isNotLeast (by rw [equal])
      have below := value.toInt_le
      rw [Int64.toInt_minValue] at above
      have isBelow : (value.toInt.natAbs : Int) ≤ Int64.maxValue.toInt := by
        rw [Int64.toInt_maxValue] at below ⊢
        omega
      have isAbove : Int64.minValue.toInt ≤ value.toInt.natAbs :=
        Int.le_trans (of_decide_eq_true rfl) (Int.natCast_nonneg _)
      obtain ⟨unsigned, isValue⟩ := exists_ofInt? isAbove isBelow
      refine ⟨unsigned, .whole isValue, fun isNegative => ?_, fun isNegative => ?_⟩
      · obtain ⟨whole, rfl, wholeValue⟩ := ofInt?_eq_some_iff.mp isValue
        have isBelow : value.toInt < 0 := of_decide_eq_true isNegative
        exact ofInt?_eq_some_iff.mpr ⟨value, rfl, by omega⟩
      · have isAbove : ¬ value.toInt < 0 := of_decide_eq_false isNegative
        have same : (value.toInt.natAbs : Int) = value.toInt := by omega
        rw [same, ofInt?_eq_some_iff.mpr ⟨value, rfl, rfl⟩] at isValue
        exact (Option.some.inj isValue).symm
  | float value =>
      have isBelow : value.rank < Decimal.infinityRank := of_decide_eq_true isFinite
      have rank_eq : min value.rank Decimal.infinityRank = value.rank :=
        Nat.min_eq_left (Nat.le_of_lt isBelow)
      refine ⟨_, .decimal isBelow, fun isNegative => ?_, fun isNegative => ?_⟩
      · obtain ⟨negative, rank, bound⟩ := value
        cases isNegative
        simp only [negate?, Decimal.Binary64.ofRank, Decimal.Binary64.negate, rank_eq]
        rfl
      · obtain ⟨negative, rank, bound⟩ := value
        cases isNegative
        simp only [Decimal.Binary64.ofRank, rank_eq]

/-- Every number but the least whole one can be written, infinity as a name. -/
theorem isReadable_unsigned {number : Number} (isNotLeast : number ≠ .integer Int64.minValue) :
    number.unsignedPiece.IsReadable := by
  cases isFinite : number.isFinite with
  | true =>
      obtain ⟨unsigned, reads, _⟩ := exists_unsigned ⟨isFinite, isNotLeast⟩
      exact Or.inr ⟨_, reads⟩
  | false =>
      cases number with
      | integer value => cases isFinite
      | float value => exact Or.inr ⟨_, .infinity (Nat.not_lt.mp (of_decide_eq_false isFinite))⟩

theorem areLegible_pieces {number : Number} (isNotLeast : number ≠ .integer Int64.minValue) :
    Piece.AreLegible number.pieces := by
  have isReadable := isReadable_unsigned isNotLeast
  rw [pieces_eq]
  cases number.isNegative with
  | false => exact .single isReadable
  | true =>
      refine .minus (fun isHead => ?_) (.single isReadable)
      cases number <;> cases isHead

end Number

theorem Literal.areLegible_pieces {value : Literal}
    (areNotLeast : ∀ number ∈ value.numbers, number ≠ .integer Int64.minValue) :
    Piece.AreLegible value.pieces := by
  cases value with
  | number value => exact Number.areLegible_pieces (areNotLeast value (List.mem_singleton_self _))
  | string value => exact .reads .string
  | boolean value => exact .reads .boolean

/-! ## Expressions -/

theorem BinaryOperator.isReadable_piece (operator : BinaryOperator) :
    operator.piece.IsReadable := by
  cases operator with
  | logical connective => cases connective <;> exact Or.inr ⟨_, .keyword⟩
  | comparison => exact Or.inr ⟨_, .comparison⟩
  | arithmetic => exact Or.inr ⟨_, .arithmetic⟩

theorem BinaryOperator.precedence_lt_atomPrecedence (operator : BinaryOperator) :
    operator.precedence < atomPrecedence := by
  rcases operator with connective | comparison | operator
  · cases connective <;> decide
  · cases comparison <;> decide
  · cases operator <;> decide

namespace Expression

theorem listPieces_eq_map (expressions : List Expression) :
    listPieces expressions = expressions.map pieces := by
  induction expressions with
  | nil => rfl
  | cons first others ih => rw [listPieces, ih, List.map_cons]

/-- What a minus sign touches does not start with one. -/
theorem head?_pieces_ne_minus {expression : Expression}
    (isNoSign : expression.startsWithMinus = false)
    (isAtom : ¬ expression.precedence < atomPrecedence) :
    expression.pieces.head? ≠ some (.arithmetic .subtract) := by
  cases expression with
  | literal value =>
      cases value with
      | number number =>
          have isUnsigned : number.isNegative = false := isNoSign
          rw [pieces, Literal.pieces, Number.pieces_eq, isUnsigned]
          cases number <;> simp [Piece.sign, Number.unsignedPiece]
      | string value => simp [pieces, Literal.pieces]
      | boolean value => simp [pieces, Literal.pieces]
  | field name => simp [pieces]
  | wildcard => simp [pieces]
  | call function arguments => simp [pieces]
  | binary operator left right =>
      exact absurd operator.precedence_lt_atomPrecedence isAtom
  | unary operator operand =>
      cases operator with
      | not => exact absurd (show negationPrecedence < atomPrecedence by decide) isAtom
      | negate => cases isNoSign
  | member name values negated =>
      exact absurd (show testPrecedence < atomPrecedence by decide) isAtom
  | matching name pattern negated =>
      exact absurd (show testPrecedence < atomPrecedence by decide) isAtom

/-- A test is legible if the part behind the word NOT is. -/
theorem areLegible_test {name : String} {negated : Bool} {test : List Piece}
    (isName : IsName name)
    (legible : Piece.AreLegible test) :
    Piece.AreLegible
      (.name name :: .space ::
        ((if negated then [.keyword .notWord, .space] else []) ++ test)) := by
  refine .around rfl (.single (Piece.isReadable_name isName)) ?_
  cases negated with
  | false => exact legible
  | true => exact .around rfl (.reads .keyword) legible

mutual

/-- Every tree is legible, whatever its shape, if its names and numbers can be written. -/
theorem areLegible_pieces {expression : Expression}
    (areNames : ∀ name ∈ expression.names, IsName name)
    (areNotLeast : ∀ number ∈ expression.numbers, number ≠ .integer Int64.minValue) :
    Piece.AreLegible expression.pieces := by
  cases expression with
  | literal value => exact Literal.areLegible_pieces areNotLeast
  | field name =>
      exact .single (Piece.isReadable_name (areNames name List.mem_cons_self))
  | wildcard => exact .reads .arithmetic
  | call function arguments =>
      obtain ⟨isName, argumentNames⟩ := List.forall_mem_cons.mp areNames
      have argumentsLegible := areLegible_listPieces argumentNames areNotLeast
      exact
        .around rfl
          (.around rfl (.single (Piece.isReadable_name isName)) (.separated argumentsLegible))
          .nil
  | binary operator left right =>
      obtain ⟨leftNames, rightNames⟩ := List.forall_mem_append.mp areNames
      obtain ⟨leftNotLeast, rightNotLeast⟩ := List.forall_mem_append.mp areNotLeast
      rw [pieces, List.append_assoc]
      exact
        .around rfl (areLegible_pieces leftNames leftNotLeast).enclosed
          (.around rfl (.single operator.isReadable_piece)
            (areLegible_pieces rightNames rightNotLeast).enclosed)
  | unary operator operand =>
      have operandLegible : Piece.AreLegible operand.pieces :=
        areLegible_pieces areNames areNotLeast
      cases operator with
      | not => exact .around rfl (.reads .keyword) operandLegible.enclosed
      | negate =>
          refine .minus ?_ operandLegible.enclosed
          cases isEnclosed :
              operand.startsWithMinus || decide (operand.precedence < atomPrecedence) with
          | true => simp [Piece.enclosed]
          | false =>
              obtain ⟨isNoSign, isAtom⟩ := Bool.or_eq_false_iff.mp isEnclosed
              exact head?_pieces_ne_minus isNoSign (of_decide_eq_false isAtom)
  | member name values negated =>
      have valuesLegible :
          ∀ row ∈ values.map Literal.pieces, Piece.AreLegible row := by
        intro row isIn
        obtain ⟨value, isValue, rfl⟩ := List.mem_map.mp isIn
        refine Literal.areLegible_pieces fun number isNumber => ?_
        exact areNotLeast number (List.mem_flatMap.mpr ⟨value, isValue, isNumber⟩)
      have test :
          Piece.AreLegible
            ([.keyword .inWord, .space, .leftParenthesis] ++
              (Piece.separated (values.map Literal.pieces) ++ [.rightParenthesis])) :=
        .around rfl (.reads .keyword)
          (.around rfl .nil (.around rfl (.separated valuesLegible) .nil))
      rw [pieces, List.append_assoc, List.append_assoc]
      exact areLegible_test (areNames name List.mem_cons_self) test
  | matching name pattern negated =>
      exact
        areLegible_test (areNames name List.mem_cons_self)
          (.around rfl (.reads .keyword) (.reads .string))

theorem areLegible_listPieces {expressions : List Expression}
    (areNames : ∀ name ∈ listNames expressions, IsName name)
    (areNotLeast : ∀ number ∈ listNumbers expressions, number ≠ .integer Int64.minValue) :
    ∀ row ∈ listPieces expressions, Piece.AreLegible row := by
  cases expressions with
  | nil => exact List.forall_mem_nil _
  | cons first others =>
      obtain ⟨firstNames, otherNames⟩ := List.forall_mem_append.mp areNames
      obtain ⟨firstNotLeast, othersNotLeast⟩ := List.forall_mem_append.mp areNotLeast
      exact
        List.forall_mem_cons.mpr
          ⟨areLegible_pieces firstNames firstNotLeast,
            areLegible_listPieces otherNames othersNotLeast⟩

end

end Expression

/-! ## Queries -/

theorem SelectItem.columnPieces_eq (item : SelectItem) :
    item.columnPieces = item.expression.pieces := by
  unfold columnPieces expression
  cases item.operator? with
  | none => rfl
  | some operator => rcases item.arguments with _ | ⟨left, _ | ⟨right, _ | _⟩⟩ <;> rfl

theorem SelectItem.areLegible_pieces {item : SelectItem}
    (areNames : ∀ name ∈ item.names, IsName name)
    (areNotLeast :
      ∀ number ∈ Expression.listNumbers item.arguments, number ≠ .integer Int64.minValue) :
    Piece.AreLegible item.pieces := by
  have legible : Piece.AreLegible item.columnPieces := by
    rw [columnPieces_eq]
    refine
      Expression.areLegible_pieces (fun name isIn => ?_)
        (item.numbers_expression ▸ areNotLeast)
    exact areNames name (mem_names_of_mem_expression isIn)
  unfold pieces
  split
  · exact legible
  · exact .around rfl legible (.around rfl (.reads .keyword) (.reads .string))

theorem isReadable_whole {amount : UInt64} (isWritable : IsWritableAmount amount) :
    (Piece.whole amount.toNat).IsReadable := by
  have isAbove : Int64.minValue.toInt ≤ amount.toNat :=
    Int.le_trans (of_decide_eq_true rfl) (Int.natCast_nonneg _)
  obtain ⟨number, isValue⟩ := Number.exists_ofInt? isAbove isWritable
  exact Or.inr ⟨_, .whole isValue⟩

theorem TimeSpec.areLegible_pieces {spec : TimeSpec}
    (areWritable : ∀ amount ∈ spec.amounts, IsWritableAmount amount) :
    Piece.AreLegible spec.pieces := by
  cases spec with
  | ago amount unit =>
      have isReadable := isReadable_whole (areWritable amount List.mem_cons_self)
      exact
        .around rfl (.single isReadable) (.around rfl (.reads .timeUnit) (.reads .keyword))
  | anchor point => exact .reads .keyword
  | timestamp text => exact .reads .string

theorem Bucketing.areLegible_pieces {bucketing : Bucketing}
    (areWritable : ∀ amount ∈ bucketing.amounts, IsWritableAmount amount) :
    Piece.AreLegible bucketing.pieces := by
  cases bucketing with
  | auto => exact .reads .keyword
  | every amount unit =>
      have isReadable := isReadable_whole (areWritable amount List.mem_cons_self)
      exact .around rfl (.single isReadable) (.reads .timeUnit)

namespace Query

theorem areLegible_namePieces {names : List String}
    (areNames : ∀ name ∈ names, IsName name) :
    Piece.AreLegible (namePieces names) := by
  refine .separated fun row isIn => ?_
  obtain ⟨name, isName, rfl⟩ := List.mem_map.mp isIn
  exact .single (Piece.isReadable_name (areNames name isName))

/-- A clause keeps apart from the text in front of it. -/
theorem areLegible_append_clausePieces
    {before body : List Piece} {keywords : List Keyword}
    (beforeLegible : Piece.AreLegible before)
    (bodyLegible : Piece.AreLegible body) :
    Piece.AreLegible (before ++ clausePieces keywords body) := by
  refine .around rfl beforeLegible ?_
  induction keywords with
  | nil => exact bodyLegible
  | cons keyword keywords ih => exact .around rfl (.reads .keyword) ih

theorem areLegible_append_optionalPieces {α : Type}
    {before : List Piece} {keywords : List Keyword} {body : α → List Piece}
    {value : Option α}
    (beforeLegible : Piece.AreLegible before)
    (bodyLegible : ∀ present ∈ value, Piece.AreLegible (body present)) :
    Piece.AreLegible (before ++ optionalPieces keywords body value) := by
  cases value with
  | none => rwa [optionalPieces, List.append_nil]
  | some present =>
      exact areLegible_append_clausePieces beforeLegible (bodyLegible present rfl)

/-- Every query is legible, whatever its shape, if all in it can be written. -/
theorem areLegible_pieces {query : Query}
    (areNames : ∀ name ∈ query.names, IsName name)
    (areNotLeast : ∀ number ∈ query.numbers, number ≠ .integer Int64.minValue)
    (areWritable : ∀ amount ∈ query.amounts, IsWritableAmount amount) :
    Piece.AreLegible query.pieces := by
  simp only [names, numbers, amounts, List.forall_mem_append, List.forall_mem_flatMap,
    Option.mem_toList] at areNames areNotLeast areWritable
  obtain ⟨⟨⟨columnNames, areSources⟩, conditionNames⟩, facetNames⟩ := areNames
  obtain ⟨columnsNotLeast, conditionNotLeast⟩ := areNotLeast
  obtain ⟨⟨⟨⟨limit, since⟩, upTo⟩, compareWith⟩, timeseries⟩ := areWritable
  have columnLegible : ∀ row ∈ query.select.map SelectItem.pieces, Piece.AreLegible row := by
    intro row isIn
    obtain ⟨item, isItem, rfl⟩ := List.mem_map.mp isIn
    exact SelectItem.areLegible_pieces (columnNames item isItem) (columnsNotLeast item isItem)
  have select :
      Piece.AreLegible
        (.keyword .selectWord :: .space ::
          Piece.separated (query.select.map SelectItem.pieces)) :=
    .around rfl (.reads .keyword) (.separated columnLegible)
  unfold pieces
  refine areLegible_append_optionalPieces ?_ fun bucketing isIn =>
    Bucketing.areLegible_pieces (timeseries bucketing isIn)
  refine areLegible_append_optionalPieces ?_ fun spec isIn =>
    TimeSpec.areLegible_pieces (compareWith spec isIn)
  refine areLegible_append_optionalPieces ?_ fun spec isIn =>
    TimeSpec.areLegible_pieces (upTo spec isIn)
  refine areLegible_append_optionalPieces ?_ fun spec isIn =>
    TimeSpec.areLegible_pieces (since spec isIn)
  refine areLegible_append_optionalPieces ?_ fun amount isIn =>
    .single (isReadable_whole (limit amount isIn))
  refine areLegible_append_optionalPieces ?_ fun names isIn =>
    areLegible_namePieces (facetNames names isIn)
  refine areLegible_append_optionalPieces ?_ fun expression isIn =>
    Expression.areLegible_pieces (conditionNames expression isIn)
      (conditionNotLeast expression isIn)
  exact areLegible_append_clausePieces select (areLegible_namePieces areSources)

theorem IsWellFormed.areLegible_pieces {query : Query} (isWellFormed : query.IsWellFormed) :
    Piece.AreLegible query.pieces :=
  Query.areLegible_pieces isWellFormed.areNames isWellFormed.numbers isWellFormed.areWritable

end Query

end EventQuery
