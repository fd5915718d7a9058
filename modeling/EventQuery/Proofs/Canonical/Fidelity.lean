import EventQuery.Proofs.Canonical.Legibility

/-!
# Canonical text is lexically faithful

Each piece of a canonical text is meant as one token, and each space as none.  The lexer
finds exactly these tokens, each with the characters of its piece and at the place where
the piece stands: no two pieces run together, none falls apart, and none is lost in a
comment.  `Lexer.items_of_writable` says so of all trees with names, numbers and amounts
that can be written, also of those that no text is read as.
-/

namespace EventQuery

/-! ## The tokens that are meant -/

namespace Piece

/-- What the token of a piece says; a space is meant as no token. -/
def content? : Piece → Option TokenContent
  | space => none
  | keyword word => some (.keyword word)
  | timeUnit _ unit => some (.keyword (.unitWord unit))
  | name value => some (if isPlainName value then wordContent value else .name value true)
  | string value => some (.string value)
  | boolean value => some (.name (if value then "true" else "false") false)
  | whole value => some (.number (.integer (Int64.ofInt value)))
  | decimal rank => some (.number (.float (.ofRank false rank)))
  | comparison operator => some (.comparison operator)
  | arithmetic operator => some (.arithmetic operator)
  | comma => some .comma
  | leftParenthesis => some .leftParenthesis
  | rightParenthesis => some .rightParenthesis

/-- The tokens that a row of pieces is meant as, the first piece at the given place. -/
def tokensFrom (position : Position) : List Piece → List Token
  | [] => []
  | piece :: pieces =>
      let others := tokensFrom (position.after piece.text.toList) pieces
      match piece.content? with
      | none => others
      | some content => ⟨content, piece.text, position⟩ :: others

/-- The rank of a piece that is a decimal number. -/
def rank? : Piece → Option Nat
  | decimal rank => some rank
  | _ => none

/-- The ranks of the decimal numbers in a row of pieces. -/
def ranks (pieces : List Piece) : List Nat :=
  pieces.filterMap rank?

@[simp]
theorem ranks_cons (piece : Piece) (pieces : List Piece) :
    ranks (piece :: pieces) = piece.rank?.toList ++ ranks pieces := by
  cases isRank : piece.rank? <;> simp [ranks, isRank]

/-- What a piece is read as is what it is meant as, unless it is an infinite number. -/
theorem ReadsAs.content?_eq {piece : Piece} {content : TokenContent}
    (reads : piece.ReadsAs content)
    (isFinite : ∀ rank ∈ piece.rank?, rank < Decimal.infinityRank) :
    piece.content? = some content := by
  cases reads with
  | plainName isPlain isNoKeyword =>
      rw [content?, if_pos isPlain, wordContent_of_none isNoKeyword]
  | keywordName isPlain isKeyword =>
      rw [content?, if_pos isPlain, wordContent_of_ofText? isKeyword]
  | quotedName isQuoted => rw [content?, if_neg (by simp [isQuoted])]
  | whole isValue =>
      obtain ⟨whole, rfl, isSame⟩ := Number.ofInt?_eq_some_iff.mp isValue
      rw [content?, ← isSame, Int64.ofInt_toInt]
  | infinity isInfinite => exact absurd (isFinite _ rfl) (Nat.not_lt.mpr isInfinite)
  | _ => rfl

theorem AreReadFrom.eq_tokensFrom {position : Position} {pieces : List Piece}
    {tokens : List Token}
    (areRead : AreReadFrom position pieces tokens)
    (areFinite : ∀ rank ∈ ranks pieces, rank < Decimal.infinityRank) :
    tokens = tokensFrom position pieces := by
  induction areRead with
  | nil => rfl
  | space _ ih => exact ih areFinite
  | token reads _ ih =>
      rw [ranks_cons] at areFinite
      obtain ⟨isFinite, othersFinite⟩ := List.forall_mem_append.mp areFinite
      simp only [Option.mem_toList] at isFinite
      rw [tokensFrom, reads.content?_eq isFinite, ih othersFinite]

end Piece

/-- Legible pieces are read as the tokens that they are meant as. -/
theorem Lexer.items_of_areLegible {pieces : List Piece}
    (legible : Piece.AreLegible pieces)
    (areFinite : ∀ rank ∈ Piece.ranks pieces, rank < Decimal.infinityRank) :
    (new (Piece.textOf pieces) none).items =
      (Piece.tokensFrom .start pieces).map .ok ++
        [.ok (.endAt (Position.start.after (Piece.textOf pieces).toList))] := by
  obtain ⟨tokens, behind, isUnlimited, isUnfinished, isBehind, isPlace, areRead, equal⟩ :=
    @exists_items_of_pieces pieces (new (Piece.textOf pieces) none) [] rfl (by simp [new])
      (List.append_nil _).symm legible.areReadable legible.isChain (Or.inl rfl)
  rw [equal, items_of_nil isUnlimited isUnfinished isBehind, isPlace,
    areRead.eq_tokensFrom areFinite]
  rfl

/-! ## The decimal numbers in a text -/

namespace Piece

@[simp]
theorem ranks_nil : ranks [] = [] := rfl

@[simp]
theorem ranks_append (first second : List Piece) :
    ranks (first ++ second) = ranks first ++ ranks second :=
  List.filterMap_append

@[simp]
theorem ranks_enclosed (inParentheses : Bool) (pieces : List Piece) :
    ranks (enclosed inParentheses pieces) = ranks pieces := by
  cases inParentheses <;> simp [enclosed, rank?]

@[simp]
theorem ranks_separated (rows : List (List Piece)) :
    ranks (separated rows) = rows.flatMap ranks := by
  fun_induction separated rows with
  | case1 => rfl
  | case2 row => simp
  | case3 row rows _ ih => simp [ih, rank?]

end Piece

open Piece

theorem Number.ranks_pieces (number : Number) : ranks number.pieces = number.rank?.toList := by
  rw [pieces_eq]
  cases number with
  | integer value => cases isNegative (integer value) <;> rfl
  | float value => cases isNegative (float value) <;> rfl

theorem Literal.ranks_pieces (value : Literal) :
    ranks value.pieces = value.numbers.filterMap Number.rank? := by
  cases value with
  | number value =>
      rw [pieces, Number.ranks_pieces]
      cases isRank : value.rank? <;> simp [numbers, isRank]
  | string value => rfl
  | boolean value => rfl

namespace Expression

mutual

/-- The decimal numbers in the text of an expression are those of the expression. -/
theorem ranks_pieces (expression : Expression) :
    ranks expression.pieces = expression.numbers.filterMap Number.rank? := by
  cases expression with
  | literal value => exact value.ranks_pieces
  | field name => rfl
  | wildcard => rfl
  | call function arguments =>
      simp [pieces, numbers, rank?, flatMap_ranks_listPieces arguments]
  | binary operator left right =>
      have isNoNumber : ranks [.space, operator.piece, .space] = [] := by
        cases operator with
        | logical connective => cases connective <;> rfl
        | _ => rfl
      rw [pieces, ranks_append, ranks_append, isNoNumber]
      simp [numbers, left.ranks_pieces, right.ranks_pieces]
  | unary operator operand =>
      cases operator <;> simp [pieces, numbers, rank?, operand.ranks_pieces]
  | member name values negated =>
      have areValues :
          (values.map Literal.pieces).flatMap ranks =
            (values.flatMap Literal.numbers).filterMap Number.rank? := by
        simp only [List.flatMap_map, List.filterMap_flatMap, Literal.ranks_pieces]
      cases negated <;> simp [pieces, numbers, rank?, areValues]
  | matching name pattern negated => cases negated <;> rfl

theorem flatMap_ranks_listPieces (expressions : List Expression) :
    (listPieces expressions).flatMap ranks =
      (listNumbers expressions).filterMap Number.rank? := by
  cases expressions with
  | nil => rfl
  | cons first others =>
      simp [listPieces, listNumbers, first.ranks_pieces, flatMap_ranks_listPieces others]

end

end Expression

theorem SelectItem.ranks_pieces (item : SelectItem) :
    ranks item.pieces =
      (Expression.listNumbers item.arguments).filterMap Number.rank? := by
  have isColumn := item.expression.ranks_pieces
  rw [numbers_expression, ← columnPieces_eq] at isColumn
  cases isNamed : item.aliasName <;> simp [pieces, isNamed, isColumn, rank?]

namespace Query

theorem ranks_clausePieces (keywords : List Keyword) (body : List Piece) :
    ranks (clausePieces keywords body) = ranks body := by
  unfold clausePieces
  induction keywords with
  | nil => rfl
  | cons keyword keywords ih => exact ih

theorem ranks_optionalPieces {α : Type} (keywords : List Keyword) (body : α → List Piece)
    (value : Option α) :
    ranks (optionalPieces keywords body value) =
      value.toList.flatMap fun present => ranks (body present) := by
  cases value with
  | none => rfl
  | some present => simp [optionalPieces, ranks_clausePieces]

/-- The decimal numbers in the text of a query are those of the query. -/
theorem ranks_pieces (query : Query) :
    ranks query.pieces = query.numbers.filterMap Number.rank? := by
  have noNames (names : List String) : ranks (namePieces names) = [] := by
    simp [namePieces, List.flatMap_map, rank?]
  have noTimes (spec : TimeSpec) : ranks spec.pieces = [] := by cases spec <;> rfl
  have noBuckets (bucketing : Bucketing) : ranks bucketing.pieces = [] := by
    cases bucketing <;> rfl
  simp [pieces, numbers, ranks_clausePieces, ranks_optionalPieces, noNames, noTimes, noBuckets,
    rank?, List.flatMap_map, List.filterMap_flatMap, SelectItem.ranks_pieces,
    Expression.ranks_pieces]

end Query

/-! ## Everything that can be written -/

/-- An expression of whatever shape whose names and numbers can be written. -/
structure Expression.IsWritable (expression : Expression) : Prop where
  names : ∀ name ∈ expression.names, IsName name
  numbers : ∀ number ∈ expression.numbers, number.IsWritable

/-- A query of whatever shape whose names, numbers and amounts can be written. -/
structure Query.IsWritable (query : Query) : Prop where
  names : ∀ name ∈ query.names, IsName name
  numbers : ∀ number ∈ query.numbers, number.IsWritable
  amounts : ∀ amount ∈ query.amounts, IsWritableAmount amount

/-- The rank of a finite number is below the one of infinity. -/
theorem rank_lt_of_areWritable {numbers : List Number}
    (areWritable : ∀ number ∈ numbers, number.IsWritable) :
    ∀ rank ∈ numbers.filterMap Number.rank?, rank < Decimal.infinityRank := by
  intro rank isIn
  obtain ⟨number, isNumber, isRank⟩ := List.mem_filterMap.mp isIn
  cases number with
  | integer value => cases isRank
  | float value =>
      cases isRank
      exact of_decide_eq_true (areWritable _ isNumber).1

/--
The text of an expression or a query holds exactly the tokens that its pieces are meant
as, each where its piece stands, and no error.
-/
theorem Lexer.items_of_writable :
    (∀ expression : Expression, expression.IsWritable →
        (new expression.text none).items =
          (tokensFrom .start expression.pieces).map .ok ++
            [.ok (.endAt (Position.start.after expression.text.toList))]) ∧
      ∀ query : Query, query.IsWritable →
        (new query.text none).items =
          (tokensFrom .start query.pieces).map .ok ++
            [.ok (.endAt (Position.start.after query.text.toList))] := by
  constructor
  · rintro expression ⟨areNames, areWritable⟩
    refine items_of_areLegible ?_ ?_
    · exact Expression.areLegible_pieces areNames fun number isIn => (areWritable number isIn).2
    · exact expression.ranks_pieces ▸ rank_lt_of_areWritable areWritable
  · rintro query ⟨areNames, areWritable, amountsWritable⟩
    refine items_of_areLegible ?_ ?_
    · exact
        Query.areLegible_pieces areNames (fun number isIn => (areWritable number isIn).2)
          amountsWritable
    · exact query.ranks_pieces ▸ rank_lt_of_areWritable areWritable

/--
A tree that no text is read as: signs in front of signs and of a negative number, the star
as an operand, and a test against no constants.
-/
def Expression.misshapen : Expression :=
  .unary .negate
    (.unary .negate
      (.binary (.arithmetic .divide) .wildcard
        (.call "a b"
          [.unary .negate (.literal (.number (.integer (-5)))), .member "LIMIT" [] true])))

/-- A query without columns that is about an event named like the start of a comment. -/
def Query.misshapen : Query where
  select := []
  sources := ["--"]
  condition := some Expression.misshapen
  facet := some []
  limit := some 0

example :
    Query.misshapen.text =
      "SELECT  FROM \x60--\x60 " ++
        "WHERE -(-(* / \x60a b\x60(-(-5), \x60LIMIT\x60 NOT IN ()))) FACET  LIMIT 0" := by
  decide +kernel

theorem Lexer.items_of_writable_misshapen :
    (Expression.misshapen.IsWritable ∧
        (new Expression.misshapen.text none).items =
          (tokensFrom .start Expression.misshapen.pieces).map .ok ++
            [.ok (.endAt (Position.start.after Expression.misshapen.text.toList))]) ∧
      Query.misshapen.IsWritable ∧
        (new Query.misshapen.text none).items =
          (tokensFrom .start Query.misshapen.pieces).map .ok ++
            [.ok (.endAt (Position.start.after Query.misshapen.text.toList))] := by
  have expression : Expression.misshapen.IsWritable := by
    constructor
    · unfold IsName
      decide
    · unfold Number.IsWritable
      decide
  have query : Query.misshapen.IsWritable := by
    constructor
    · unfold IsName
      decide
    · exact expression.numbers
    · intro amount isIn
      obtain rfl : amount = 0 := List.mem_singleton.mp isIn
      unfold IsWritableAmount
      decide
  exact
    ⟨⟨expression, items_of_writable.1 _ expression⟩, query, items_of_writable.2 _ query⟩

end EventQuery
