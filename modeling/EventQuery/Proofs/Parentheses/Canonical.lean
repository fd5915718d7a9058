import EventQuery.Proofs.Canonical.Legibility
import EventQuery.Proofs.Parentheses.Scale

/-!
# Canonical text weighs what its query does

Canonical text has a parenthesis exactly where the weight of its query has one, and no
minus sign stands right behind a prefix one.  So canonical text is the lightest of all
texts of its query, whatever the scale.
-/

namespace EventQuery

open Piece

namespace Piece

@[simp]
theorem marks_nil : marks [] = [] :=
  rfl

@[simp]
theorem marks_append (first second : List Piece) :
    marks (first ++ second) = marks first ++ marks second :=
  List.filterMap_append

theorem marks_cons_of_mark? {piece : Piece} {mark : Mark} (isMark : piece.mark? = some mark)
    (pieces : List Piece) :
    marks (piece :: pieces) = mark :: marks pieces :=
  List.filterMap_cons_some isMark

theorem exists_mark? {piece : Piece} (isNoSpace : piece ≠ .space) :
    ∃ mark, piece.mark? = some mark := by
  fun_cases mark? piece
  · exact absurd rfl isNoSpace
  all_goals exact ⟨_, rfl⟩

theorem eq_minus_of_mark? {piece : Piece} (isMark : piece.mark? = some .minus) :
    piece = .arithmetic .subtract := by
  cases piece with
  | arithmetic operator =>
      cases operator with
      | subtract => rfl
      | _ => cases isMark
  | keyword word =>
      rw [mark?] at isMark
      split at isMark <;> cases isMark
  | _ => cases isMark

@[simp]
theorem marks_space (pieces : List Piece) : marks (.space :: pieces) = marks pieces :=
  rfl

@[simp]
theorem marks_leftParenthesis (pieces : List Piece) :
    marks (.leftParenthesis :: pieces) = .opening :: marks pieces :=
  rfl

@[simp]
theorem marks_rightParenthesis (pieces : List Piece) :
    marks (.rightParenthesis :: pieces) = .operand :: marks pieces :=
  rfl

@[simp]
theorem marks_comma (pieces : List Piece) : marks (.comma :: pieces) = .other :: marks pieces :=
  rfl

@[simp]
theorem marks_name (name : String) (pieces : List Piece) :
    marks (.name name :: pieces) = .name name :: marks pieces :=
  rfl

@[simp]
theorem marks_string (value : String) (pieces : List Piece) :
    marks (.string value :: pieces) = .operand :: marks pieces :=
  rfl

@[simp]
theorem marks_minus (pieces : List Piece) :
    marks (.arithmetic .subtract :: pieces) = .minus :: marks pieces :=
  rfl

theorem marks_keyword {word : Keyword} (isReserved : word.isReserved = true)
    (pieces : List Piece) :
    marks (.keyword word :: pieces) = .other :: marks pieces :=
  marks_cons_of_mark? (by rw [mark?, if_pos isReserved]) pieces

end Piece

/-- Behind an operand every operator awaits another one and weighs nothing. -/
theorem BinaryOperator.exists_mark (operator : BinaryOperator) :
    ∃ mark, operator.piece.mark? = some mark ∧ Mood.ended.after mark = .awaiting ∧
      ∀ scale : Scale, scale.weight .ended mark = 0 := by
  rcases operator with connective | comparison | operator
  · cases connective <;> exact ⟨.other, rfl, rfl, fun _ => rfl⟩
  · exact ⟨.other, rfl, rfl, fun _ => rfl⟩
  · cases operator <;> exact ⟨_, rfl, rfl, fun _ => rfl⟩

namespace Scale

/-- Pieces end an operand, and have a weight where one is awaited. -/
structure IsWeighed (scale : Scale) (pieces : List Piece) (weight : Nat) : Prop where
  ends : ∀ mood : Mood, mood.through (marks pieces) = .ended
  total_eq : scale.total .awaiting (marks pieces) = weight

namespace IsWeighed

variable {scale : Scale} {pieces others : List Piece} {weight more : Nat}

theorem enclosed (isWeighed : scale.IsWeighed pieces weight) (inParentheses : Bool) :
    scale.IsWeighed (Piece.enclosed inParentheses pieces)
      (scale.grouped inParentheses weight) := by
  obtain ⟨ends, total_eq⟩ := isWeighed
  cases inParentheses with
  | false => exact ⟨ends, total_eq⟩
  | true =>
      constructor
      · intro mood
        simp [Piece.enclosed]
      · simp [Piece.enclosed, total_eq, grouped]

/-- An operator between two operands weighs nothing, be it a minus sign or not. -/
theorem joined (isWeighed : scale.IsWeighed pieces weight)
    (othersAreWeighed : scale.IsWeighed others more)
    (operator : BinaryOperator) :
    scale.IsWeighed (pieces ++ [.space, operator.piece, .space] ++ others) (weight + more) := by
  obtain ⟨ends, total_eq⟩ := isWeighed
  obtain ⟨othersEnd, others_eq⟩ := othersAreWeighed
  obtain ⟨mark, isMark, isAwaited, isWeightless⟩ := operator.exists_mark
  constructor
  · intro mood
    simp [marks_cons_of_mark? isMark, othersEnd]
  · simp [marks_cons_of_mark? isMark, ends, total_eq, isAwaited, isWeightless scale, others_eq]

/-- A reserved word weighs nothing, and an operand is awaited behind it. -/
theorem behindKeyword {word : Keyword} (isWeighed : scale.IsWeighed pieces weight)
    (isReserved : word.isReserved = true) :
    scale.IsWeighed (.keyword word :: .space :: pieces) weight := by
  obtain ⟨ends, total_eq⟩ := isWeighed
  constructor
  · intro mood
    rw [marks_keyword isReserved, marks_space, Mood.through_cons]
    exact ends _
  · simp [marks_keyword isReserved, total_eq]

/-- The opposite of what has a parenthesis, or no minus sign, in front. -/
theorem negated {inParentheses : Bool} (isWeighed : scale.IsWeighed pieces weight)
    (isApart : inParentheses = false → (marks pieces).head? ≠ some .minus) :
    scale.IsWeighed (.arithmetic .subtract :: Piece.enclosed inParentheses pieces)
      (scale.grouped inParentheses weight) := by
  obtain ⟨ends, total_eq⟩ := isWeighed.enclosed inParentheses
  constructor
  · intro mood
    rw [marks_minus, Mood.through_cons]
    exact ends _
  · have isNoMinus :
        (marks (Piece.enclosed inParentheses pieces)).head? ≠ some .minus := by
      cases inParentheses with
      | false => exact isApart rfl
      | true => exact nofun
    rw [marks_minus, total_cons, ← total_eq, ← scale.total_signed_of_head? isNoMinus]
    exact Nat.zero_add _

end IsWeighed

variable {scale : Scale}

/-! ## Lists and constants -/

/-- Behind a comma another operand is awaited, whatever is in front of it. -/
theorem total_separated {α : Type} {row : α → List Piece} {weight : α → Nat} {values : List α}
    (total_eq : ∀ value ∈ values, scale.total .awaiting (marks (row value)) = weight value) :
    scale.total .awaiting (marks (Piece.separated (values.map row))) =
      together weight values := by
  induction values with
  | nil => rfl
  | cons value values ih =>
      obtain ⟨first, others⟩ := List.forall_mem_cons.mp total_eq
      cases values with
      | nil => exact first
      | cons second values =>
          have behind := ih others
          rw [List.map_cons] at behind
          rw [List.map_cons, List.map_cons, Piece.separated, together]
          · simp [first, behind]
          · simp

end Scale

theorem Number.marks_pieces (number : Number) :
    marks number.pieces = if number.isNegative then [.minus, .operand] else [.operand] := by
  rw [pieces_eq]
  cases number.isNegative <;> cases number <;> rfl

theorem Literal.isWeighed_pieces (scale : Scale) (value : Literal) :
    scale.IsWeighed value.pieces 0 := by
  cases value with
  | number number =>
      constructor
      · intro mood
        rw [pieces, number.marks_pieces]
        split <;> simp
      · rw [pieces, number.marks_pieces]
        split <;> rfl
  | string value => exact ⟨fun mood => mood.after_operand, rfl⟩
  | boolean value => exact ⟨fun mood => mood.after_operand, rfl⟩

/-- The list of a test weighs what its parenthesis does. -/
theorem Literal.isWeighed_list (scale : Scale) (values : List Literal) :
    scale.IsWeighed
      (.leftParenthesis :: (Piece.separated (values.map pieces) ++ [.rightParenthesis]))
      scale.opening := by
  have inside : scale.total .awaiting (marks (Piece.separated (values.map pieces))) = 0 :=
    (Scale.total_separated fun value _ => (value.isWeighed_pieces scale).total_eq).trans
      (Scale.together_zero values)
  constructor
  · intro mood
    simp
  · simp [inside]

/-! ## Expressions -/

/-- Pieces start with a token and not with a space. -/
def StartsWithToken (pieces : List Piece) : Prop :=
  ∃ piece, pieces.head? = some piece ∧ piece ≠ .space

theorem StartsWithToken.enclosed {pieces : List Piece} (starts : StartsWithToken pieces)
    (inParentheses : Bool) :
    StartsWithToken (Piece.enclosed inParentheses pieces) := by
  cases inParentheses with
  | false => exact starts
  | true => exact ⟨_, rfl, by simp⟩

theorem StartsWithToken.append {pieces : List Piece} (starts : StartsWithToken pieces)
    (others : List Piece) :
    StartsWithToken (pieces ++ others) := by
  obtain ⟨piece, isHead, isNoSpace⟩ := starts
  exact ⟨piece, by rw [List.head?_append, isHead, Option.some_or], isNoSpace⟩

/-- Pieces that start with a token start with the mark of that. -/
theorem StartsWithToken.head?_of_minus {pieces : List Piece} (starts : StartsWithToken pieces)
    (isMinus : (marks pieces).head? = some .minus) :
    pieces.head? = some (.arithmetic .subtract) := by
  obtain ⟨piece, isHead, isNoSpace⟩ := starts
  obtain ⟨others, rfl⟩ := List.head?_eq_some_iff.mp isHead
  obtain ⟨mark, isMark⟩ := exists_mark? isNoSpace
  rw [marks_cons_of_mark? isMark] at isMinus
  cases isMinus
  rw [eq_minus_of_mark? isMark, List.head?_cons]

namespace Expression

variable {scale : Scale}

theorem isOpposite_eq_startsWithMinus {operand : Expression}
    (isNoNumber : ∀ value : Number, operand ≠ .literal (.number value)) :
    operand.startsWithMinus = operand.isOpposite := by
  fun_cases startsWithMinus operand
  · rfl
  · exact absurd rfl (isNoNumber _)
  · fun_cases isOpposite operand
    · simp_all
    · rfl

theorem IsWellFormed.startsWithToken {expression : Expression}
    (isWellFormed : expression.IsWellFormed) :
    StartsWithToken expression.pieces := by
  induction isWellFormed with
  | @literal value =>
      cases value with
      | number number =>
          rw [pieces, Literal.pieces, number.pieces_eq]
          cases number.isNegative <;> cases number <;>
            exact ⟨_, rfl, by simp [Number.unsignedPiece]⟩
      | string value => exact ⟨_, rfl, by simp⟩
      | boolean value => exact ⟨_, rfl, by simp⟩
  | binary _ _ startsLeft _ => exact ((startsLeft.enclosed _).append _).append _
  | _ => exact ⟨_, rfl, by simp⟩

/-- A test weighs what the part behind its word does, and its name. -/
theorem isWeighed_test {word : Keyword} {rest : List Piece} {weight : Nat}
    (name : String)
    (negated : Bool)
    (isReserved : word.isReserved = true)
    (isWeighed : scale.IsWeighed rest weight) :
    scale.IsWeighed
      (.name name :: .space ::
        ((if negated then [.keyword .notWord, .space] else []) ++
          .keyword word :: .space :: rest))
      (scale.name name + weight) := by
  obtain ⟨ends, total_eq⟩ := isWeighed
  have isNot (others : List Piece) :
      marks (.keyword .notWord :: others) = .other :: marks others :=
    marks_keyword rfl others
  constructor
  · intro mood
    cases negated <;> simp [marks_keyword isReserved, isNot, ends]
  · cases negated <;> simp [marks_keyword isReserved, isNot, total_eq]

/-- The canonical text of an expression weighs what the expression does. -/
theorem isWeighed_pieces {expression : Expression}
    (isWellFormed : expression.IsWellFormed)
    (scale : Scale) :
    scale.IsWeighed expression.pieces (scale.expression expression) := by
  induction isWellFormed with
  | @literal value => exact value.isWeighed_pieces scale
  | @field name isName =>
      exact ⟨fun mood => mood.after_name name, scale.weight_name .awaiting name⟩
  | @call function arguments isName inner ih =>
      have argumentWeighed :
          ∀ argument ∈ arguments,
            scale.total .awaiting (marks argument.pieces) = scale.expression argument := by
        intro argument isIn
        by_cases isStar : argument = .wildcard
        · rw [isStar]
          rfl
        · exact (ih argument isIn isStar).total_eq
      have inside := Scale.total_separated argumentWeighed
      rw [← scale.expressions_eq_together, ← listPieces_eq_map] at inside
      constructor
      · intro mood
        simp [pieces]
      · simp [pieces, Scale.expression, inside]
  | @binary operator left right _ _ leftIh rightIh =>
      exact (leftIh.enclosed _).joined (rightIh.enclosed _) operator
  | not _ ih => exact (ih.enclosed _).behindKeyword rfl
  | @negate operand inner isNoNumber ih =>
      have same := isOpposite_eq_startsWithMinus isNoNumber
      rw [pieces, Scale.expression, ← same]
      refine ih.negated fun isOpen isMinus => ?_
      obtain ⟨isNoSign, isAtom⟩ := Bool.or_eq_false_iff.mp isOpen
      exact
        head?_pieces_ne_minus isNoSign (of_decide_eq_false isAtom)
          (inner.startsWithToken.head?_of_minus isMinus)
  | @member name values negated isName isNonempty =>
      rw [pieces, List.append_assoc, List.append_assoc]
      exact isWeighed_test name negated rfl (Literal.isWeighed_list scale values)
  | @matching name pattern negated isName =>
      have quoted : scale.IsWeighed [.string pattern] 0 :=
        ⟨fun mood => mood.after_operand, rfl⟩
      exact isWeighed_test name negated rfl quoted

end Expression

/-! ## Queries -/

theorem SelectItem.total_pieces {item : SelectItem}
    (isWellFormed : item.IsWellFormed)
    (scale : Scale) :
    scale.total .awaiting (marks item.pieces) = scale.expression item.expression := by
  obtain ⟨expression, arithmetic, computes, inner⟩ := isWellFormed
  have column := (expression.isWeighed_pieces inner scale).total_eq
  rw [← expression_eq_of_computes arithmetic computes, ← columnPieces_eq] at column
  unfold pieces
  split
  · exact column
  · rename_i name _
    have aliased :
        marks [.space, .keyword .asWord, .space, .string name] = [.other, .operand] := rfl
    rw [marks_append, Scale.total_append, column, aliased]
    simp

namespace Scale

variable {scale : Scale}

theorem total_names (names : List String) :
    scale.total .awaiting (marks (Query.namePieces names)) = scale.names names :=
  total_separated fun name _ => scale.weight_name .awaiting name

/-- Behind its keyword a clause weighs what its body does. -/
theorem total_clausePieces {word : Keyword}
    (isReserved : word.isReserved = true)
    (mood : Mood)
    (body : List Piece) :
    scale.total mood (marks (Query.clausePieces [word] body)) =
      scale.total .awaiting (marks body) := by
  have isClause :
      Query.clausePieces [word] body = .space :: .keyword word :: .space :: body := rfl
  rw [isClause, marks_space, marks_keyword isReserved, marks_space]
  simp

theorem total_optionalPieces {α : Type} {word : Keyword} {body : α → List Piece}
    {weight : α → Nat} {value : Option α}
    (isReserved : word.isReserved = true)
    (total_eq : ∀ present ∈ value, scale.total .awaiting (marks (body present)) = weight present)
    (mood : Mood) :
    scale.total mood (marks (Query.optionalPieces [word] body value)) =
      together weight value.toList := by
  cases value with
  | none => rfl
  | some present => exact (total_clausePieces isReserved mood _).trans (total_eq present rfl)

/-- A clause without names and parentheses weighs nothing, be it there or not. -/
theorem total_optionalPieces_eq_zero {α : Type} {keywords : List Keyword}
    {body : α → List Piece} {value : Option α}
    (isWeightless : ∀ present mood, scale.total mood (marks (body present)) = 0)
    (mood : Mood) :
    scale.total mood (marks (Query.optionalPieces keywords body value)) = 0 := by
  cases value with
  | none => rfl
  | some present =>
      rw [Query.optionalPieces, Query.clausePieces, List.cons_append, marks_space]
      induction keywords generalizing mood with
      | nil => exact isWeightless present mood
      | cons word keywords ih =>
          rw [List.flatMap_cons, List.append_assoc, marks_append, total_append, ih]
          have isMark : (Piece.keyword word).mark? =
              some (if word.isReserved then .other else .operand) := rfl
          simp [marks_cons_of_mark? isMark]
          split <;> simp

end Scale

theorem TimeSpec.total_pieces (scale : Scale) (spec : TimeSpec) (mood : Mood) :
    scale.total mood (marks spec.pieces) = 0 := by
  cases spec with
  | ago => cases mood <;> rfl
  | anchor => cases mood <;> rfl
  | timestamp => cases mood <;> rfl

theorem Bucketing.total_pieces (scale : Scale) (bucketing : Bucketing) (mood : Mood) :
    scale.total mood (marks bucketing.pieces) = 0 := by
  cases bucketing <;> cases mood <;> rfl

/-- The canonical text of a query weighs what the query does. -/
theorem Query.total_pieces {query : Query}
    (isWellFormed : query.IsWellFormed)
    (scale : Scale) :
    scale.total .awaiting (marks query.pieces) = scale.query query := by
  have columns :
      scale.total .awaiting (marks (Piece.separated (query.select.map SelectItem.pieces))) =
        Scale.together (fun item => scale.expression item.expression) query.select :=
    Scale.total_separated fun item isIn =>
      SelectItem.total_pieces (isWellFormed.columns item isIn) scale
  have select (pieces : List Piece) :
      marks (.keyword .selectWord :: .space :: pieces) = .other :: marks pieces :=
    marks_keyword rfl _
  have sources (mood : Mood) :
      scale.total mood (marks (clausePieces [.fromWord] (namePieces query.sources))) =
        scale.names query.sources :=
    (Scale.total_clausePieces rfl mood _).trans (Scale.total_names query.sources)
  have condition (mood : Mood) :
      scale.total mood (marks (optionalPieces [.whereWord] Expression.pieces query.condition)) =
        Scale.together scale.expression query.condition.toList :=
    Scale.total_optionalPieces rfl
      (fun expression isIn =>
        (expression.isWeighed_pieces (isWellFormed.condition expression isIn).1 scale).total_eq)
      mood
  have facet (mood : Mood) :
      scale.total mood (marks (optionalPieces [.facetWord] namePieces query.facet)) =
        Scale.together scale.names query.facet.toList :=
    Scale.total_optionalPieces rfl (fun names _ => Scale.total_names names) mood
  have limit (mood : Mood) :
      scale.total mood
          (marks
            (optionalPieces [.limitWord] (fun limit => [.whole limit.toNat]) query.limit)) =
        0 := by
    refine Scale.total_optionalPieces_eq_zero (fun limit mood => ?_) mood
    exact scale.weight_operand mood
  have times (keywords : List Keyword) (spec : Option TimeSpec) (mood : Mood) :
      scale.total mood (marks (optionalPieces keywords TimeSpec.pieces spec)) = 0 :=
    Scale.total_optionalPieces_eq_zero (TimeSpec.total_pieces scale) mood
  have buckets (mood : Mood) :
      scale.total mood
          (marks (optionalPieces [.timeseriesWord] Bucketing.pieces query.timeseries)) =
        0 :=
    Scale.total_optionalPieces_eq_zero (Bucketing.total_pieces scale) mood
  rw [pieces, Scale.query, scale.expressions_eq_together, scale.expressions_eq_together,
    Scale.together_map]
  simp only [List.append_assoc, List.cons_append, select, marks_append, Scale.total_cons,
    Scale.total_append, Scale.weight_other, Mood.after_other, columns, sources, condition, facet,
    limit, times, buckets, Nat.zero_add, Nat.add_zero]

end EventQuery
