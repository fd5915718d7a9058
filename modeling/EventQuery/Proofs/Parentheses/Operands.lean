import EventQuery.Proofs.Parentheses.Canonical

/-!
# Operands in their places

Every operand of an operator stands somewhere in the canonical text of a query, in
parentheses or without them, and so does every argument.  Operands inside of others
stand where those do.  In front of an operand is nothing, or something that keeps apart
from it, or a minus sign; behind it nothing, or something that keeps apart from it.
-/

namespace EventQuery

open Piece

namespace Piece

/-- Rows with a comma behind each, as they are in front of another row. -/
def rowsBefore (rows : List (List Piece)) : List Piece :=
  rows.flatMap fun row => row ++ [comma, space]

/-- Rows with a comma in front of each, as they are behind another row. -/
def rowsBehind (rows : List (List Piece)) : List Piece :=
  rows.flatMap fun row => [comma, space] ++ row

/-- A row stands among others behind those in front of it, and in front of the others. -/
theorem separated_append_cons (before : List (List Piece)) (row : List Piece)
    (behind : List (List Piece)) :
    separated (before ++ row :: behind) = rowsBefore before ++ (row ++ rowsBehind behind) := by
  have first (row : List Piece) (behind : List (List Piece)) :
      separated (row :: behind) = row ++ rowsBehind behind := by
    induction behind generalizing row with
    | nil => exact (List.append_nil row).symm
    | cons second behind ih =>
        rw [separated, ih, List.append_assoc]
        · rfl
        · simp
  induction before with
  | nil => exact first row behind
  | cons front before ih =>
      rw [List.cons_append, separated, ih]
      · simp [rowsBefore]
      · simp

end Piece

/-- An operand with the pieces around it. -/
structure Operand where
  front : List Piece
  inParentheses : Bool
  expression : Expression
  back : List Piece

namespace Operand

/-- All pieces around an operand, and those of the operand. -/
def pieces (operand : Operand) : List Piece :=
  operand.front ++ (enclosed operand.inParentheses operand.expression.pieces ++ operand.back)

/-- The same operand with more pieces around it. -/
def within (operand : Operand) (front back : List Piece) : Operand :=
  { operand with front := front ++ operand.front, back := operand.back ++ back }

/-- An operand of an operand, with what is around both. -/
def inside (inner outer : Operand) : Operand :=
  inner.within (outer.front ++ if outer.inParentheses then [.leftParenthesis] else [])
    ((if outer.inParentheses then [.rightParenthesis] else []) ++ outer.back)

theorem pieces_within (operand : Operand) (front back : List Piece) :
    (operand.within front back).pieces = front ++ (operand.pieces ++ back) := by
  simp only [pieces, within, List.append_assoc]

theorem pieces_inside {inner outer : Operand}
    (isInner : outer.expression.pieces = inner.pieces) :
    (inner.inside outer).pieces = outer.pieces := by
  rw [inside, pieces_within, ← isInner, pieces]
  cases outer.inParentheses <;> simp [enclosed]

end Operand

/-- The operands of an expression, at whatever depth, and its arguments. -/
inductive Expression.HasOperand : Expression → Operand → Prop where
  | left (operator : BinaryOperator) (left right : Expression) :
      HasOperand (.binary operator left right)
        ⟨[], left.precedence < operator.leftDemand, left,
          [.space, operator.piece, .space] ++
            enclosed (right.precedence < operator.rightDemand) right.pieces⟩
  | right (operator : BinaryOperator) (left right : Expression) :
      HasOperand (.binary operator left right)
        ⟨enclosed (left.precedence < operator.leftDemand) left.pieces ++
            [.space, operator.piece, .space],
          right.precedence < operator.rightDemand, right, []⟩
  | not (operand : Expression) :
      HasOperand (.unary .not operand)
        ⟨[.keyword .notWord, .space], operand.precedence < negationPrecedence, operand, []⟩
  | negate (operand : Expression) :
      HasOperand (.unary .negate operand)
        ⟨[.arithmetic .subtract],
          operand.startsWithMinus || operand.precedence < atomPrecedence, operand, []⟩
  | argument {value : Expression} (function : String) (before behind : List Expression)
      (isNoStar : value ≠ .wildcard) :
      HasOperand (.call function (before ++ value :: behind))
        ⟨[.name function, .leftParenthesis] ++ rowsBefore (listPieces before), false, value,
          rowsBehind (listPieces behind) ++ [.rightParenthesis]⟩
  | inside {expression : Expression} {outer inner : Operand}
      (isOuter : HasOperand expression outer)
      (isInner : HasOperand outer.expression inner) :
      HasOperand expression (inner.inside outer)

/-! ## What is in front of an operand -/

/-- What may be in front of an operand: what is read last keeps apart from it, or is its sign. -/
inductive Approaches : List Piece → Prop where
  | start : Approaches []
  | apart {pieces : List Piece} {separator : Piece}
      (isSeparator : separator.isSeparator = true)
      (isAwaited :
        ∀ mood : Mood, mood ≠ .ended → mood.through (marks (pieces ++ [separator])) = .awaiting) :
      Approaches (pieces ++ [separator])
  | signed {pieces : List Piece}
      (isSigned :
        ∀ mood : Mood, mood ≠ .ended →
          mood.through (marks (pieces ++ [.arithmetic .subtract])) = .signed) :
      Approaches (pieces ++ [.arithmetic .subtract])

namespace Approaches

variable {first second : List Piece}

theorem through_ne_ended (approaches : Approaches first) {mood : Mood} (isOpen : mood ≠ .ended) :
    mood.through (marks first) ≠ .ended := by
  cases approaches with
  | start => exact isOpen
  | apart _ isAwaited => exact isAwaited mood isOpen ▸ Mood.noConfusion
  | signed isSigned => exact isSigned mood isOpen ▸ Mood.noConfusion

theorem append (approaches : Approaches first) (behind : Approaches second) :
    Approaches (first ++ second) := by
  cases behind with
  | start => exact (List.append_nil first).symm ▸ approaches
  | @apart pieces separator isSeparator isAwaited =>
      rw [← List.append_assoc]
      refine .apart isSeparator fun mood isOpen => ?_
      rw [List.append_assoc, marks_append, Mood.through_append]
      exact isAwaited _ (approaches.through_ne_ended isOpen)
  | @signed pieces isSigned =>
      rw [← List.append_assoc]
      refine .signed fun mood isOpen => ?_
      rw [List.append_assoc, marks_append, Mood.through_append]
      exact isSigned _ (approaches.through_ne_ended isOpen)

theorem opening (pieces : List Piece) : Approaches (pieces ++ [.leftParenthesis]) :=
  .apart rfl fun mood _ => by simp

/-- Behind a word or sign and a space an operand is awaited. -/
theorem space {piece : Piece} (pieces : List Piece)
    (isAwaited : ∀ mood : Mood, mood.through (marks [piece]) = .awaiting) :
    Approaches (pieces ++ [piece, .space]) := by
  rw [← List.singleton_append, ← List.append_assoc]
  refine .apart rfl fun mood _ => ?_
  rw [List.append_assoc, marks_append, Mood.through_append]
  exact isAwaited _

theorem rows (rows : List (List Piece)) : Approaches (rowsBefore rows) := by
  induction rows with
  | nil => exact .start
  | cons row rows ih => exact (@space .comma row fun mood => mood.after_other).append ih

theorem keyword {word : Keyword} (isReserved : word.isReserved = true) (pieces : List Piece) :
    Approaches (pieces ++ [.keyword word, .space]) := by
  refine space pieces fun mood => ?_
  rw [marks_keyword isReserved]
  exact mood.after_other

end Approaches

/-! ## What is behind an operand -/

/-- What is behind an operand: nothing, or what keeps apart from it. -/
def StartsApart (pieces : List Piece) : Prop :=
  ∀ piece ∈ pieces.head?, piece.isSeparator = true

namespace StartsApart

variable {first second : List Piece}

theorem nil : StartsApart [] :=
  nofun

theorem cons {separator : Piece} {pieces : List Piece}
    (isSeparator : separator.isSeparator = true) :
    StartsApart (separator :: pieces) := by
  rintro _ ⟨⟩
  exact isSeparator

theorem append (isFirst : StartsApart first) (isSecond : StartsApart second) :
    StartsApart (first ++ second) := by
  cases first with
  | nil => exact isSecond
  | cons piece first => exact isFirst

theorem rows (rows : List (List Piece)) : StartsApart (rowsBehind rows) := by
  cases rows with
  | nil => exact .nil
  | cons row rows => exact .cons rfl

end StartsApart

/-! ## Operands of expressions -/

namespace Expression.HasOperand

variable {expression : Expression} {operand : Operand}

/-- An operand and what is around it are all pieces of the expression. -/
theorem pieces_eq (has : expression.HasOperand operand) : expression.pieces = operand.pieces := by
  induction has with
  | left operator left right => simp [pieces, Operand.pieces]
  | right operator left right => simp [pieces, Operand.pieces]
  | not operand => simp [pieces, Operand.pieces]
  | negate operand => simp [pieces, Operand.pieces]
  | argument function before behind _ =>
      simp only [pieces, Operand.pieces, listPieces_eq_map, List.map_append, List.map_cons,
        separated_append_cons, enclosed]
      simp
  | inside _ _ isOuter isInner => exact isOuter.trans (Operand.pieces_inside isInner).symm

theorem isWellFormed (has : expression.HasOperand operand)
    (isWellFormed : expression.IsWellFormed) :
    operand.expression.IsWellFormed := by
  induction has with
  | left =>
      cases isWellFormed with
      | binary left _ => exact left
  | right =>
      cases isWellFormed with
      | binary _ right => exact right
  | not =>
      cases isWellFormed with
      | not inner => exact inner
  | negate =>
      cases isWellFormed with
      | negate inner _ => exact inner
  | argument function before behind isNoStar =>
      cases isWellFormed with
      | call _ inner => exact inner _ (List.mem_append_right before List.mem_cons_self) isNoStar
  | inside _ _ isOuter isInner => exact isInner (isOuter isWellFormed)

/-- Behind what is in front of an operand the operand is awaited. -/
theorem approaches (has : expression.HasOperand operand)
    (isWellFormed : expression.IsWellFormed) :
    Approaches operand.front := by
  induction has with
  | left => exact .start
  | right operator left right =>
      cases isWellFormed with
      | binary leftInner _ =>
          obtain ⟨mark, isMark, isAwaited, _⟩ := operator.exists_mark
          have isWeighed := left.isWeighed_pieces leftInner ⟨0, fun _ => 0⟩
          have ends := (isWeighed.enclosed (left.precedence < operator.leftDemand)).ends
          have isSplit (pieces : List Piece) :
              pieces ++ [.space, operator.piece, .space] =
                (pieces ++ [.space, operator.piece]) ++ [.space] := by
            simp
          rw [isSplit]
          refine .apart rfl fun mood _ => ?_
          simp [marks_cons_of_mark? isMark, ends, isAwaited]
  | not => exact .keyword rfl []
  | negate =>
      refine @Approaches.signed [] fun mood isOpen => ?_
      cases mood with
      | ended => exact absurd rfl isOpen
      | awaiting => rfl
      | signed => rfl
  | argument function before behind isNoStar =>
      exact (Approaches.opening [.name function]).append (.rows _)
  | @inside expression outer inner hasOuter _ isOuter isInner =>
      have front := isOuter isWellFormed
      refine Approaches.append ?_ (isInner (hasOuter.isWellFormed isWellFormed))
      split
      · exact .opening _
      · exact (List.append_nil _).symm ▸ front

/-- What is behind an operand keeps apart from it. -/
theorem startsApart (has : expression.HasOperand operand) : StartsApart operand.back := by
  induction has with
  | left => exact .cons rfl
  | right => exact .nil
  | not => exact .nil
  | negate => exact .nil
  | argument function before behind isNoStar => exact (StartsApart.rows _).append (.cons rfl)
  | @inside expression outer inner _ _ isOuter isInner =>
      refine isInner.append (StartsApart.append ?_ isOuter)
      split
      · exact .cons rfl
      · exact .nil

end Expression.HasOperand

/-! ## Operands of queries -/

namespace Query

/-- The clauses behind the condition. -/
def piecesBehindCondition (query : Query) : List Piece :=
  optionalPieces [.facetWord] namePieces query.facet ++
    optionalPieces [.limitWord] (fun limit => [.whole limit.toNat]) query.limit ++
    optionalPieces [.sinceWord] TimeSpec.pieces query.since ++
    optionalPieces [.untilWord] TimeSpec.pieces query.upTo ++
    optionalPieces [.compareWord, .withWord] TimeSpec.pieces query.compareWith ++
    optionalPieces [.timeseriesWord] Bucketing.pieces query.timeseries

/-- The clauses behind the columns. -/
def piecesBehindColumns (query : Query) : List Piece :=
  clausePieces [.fromWord] (namePieces query.sources) ++
    optionalPieces [.whereWord] Expression.pieces query.condition ++
    query.piecesBehindCondition

/-- The columns, and the words in front of the condition. -/
def piecesBeforeCondition (query : Query) : List Piece :=
  .keyword .selectWord :: .space :: separated (query.select.map SelectItem.pieces) ++
    clausePieces [.fromWord] (namePieces query.sources) ++
    [.space, .keyword .whereWord, .space]

/-- What is behind the expression of a column: its alias, if it has one. -/
def aliasPieces (aliasName : Option String) : List Piece :=
  match aliasName with
  | none => []
  | some value => [.space, .keyword .asWord, .space, .string value]

/-- The operands of the columns of a query and of its condition. -/
inductive HasOperand (query : Query) : Operand → Prop where
  | column {item : SelectItem} {operand : Operand} (before behind : List SelectItem)
      (isColumn : query.select = before ++ item :: behind)
      (inner : item.expression.HasOperand operand) :
      HasOperand query
        (operand.within
          ([.keyword .selectWord, .space] ++ rowsBefore (before.map SelectItem.pieces))
          (aliasPieces item.aliasName ++ rowsBehind (behind.map SelectItem.pieces) ++
            query.piecesBehindColumns))
  | condition {condition : Expression} {operand : Operand}
      (isCondition : query.condition = some condition)
      (inner : condition.HasOperand operand) :
      HasOperand query
        (operand.within query.piecesBeforeCondition query.piecesBehindCondition)

end Query

theorem SelectItem.pieces_eq (item : SelectItem) :
    item.pieces = item.expression.pieces ++ Query.aliasPieces item.aliasName := by
  rw [← item.columnPieces_eq, pieces]
  cases item.aliasName with
  | none => exact (List.append_nil _).symm
  | some value => rfl

theorem SelectItem.IsWellFormed.expression {item : SelectItem}
    (isWellFormed : item.IsWellFormed) :
    item.expression.IsWellFormed := by
  obtain ⟨expression, arithmetic, computes, inner⟩ := isWellFormed
  exact expression_eq_of_computes arithmetic computes ▸ inner

namespace Query

theorem startsApart_clausePieces (keywords : List Keyword) (body : List Piece) :
    StartsApart (clausePieces keywords body) :=
  .cons rfl

theorem startsApart_optionalPieces {α : Type} (keywords : List Keyword)
    (body : α → List Piece) (value : Option α) :
    StartsApart (optionalPieces keywords body value) := by
  cases value with
  | none => exact .nil
  | some present => exact startsApart_clausePieces keywords _

theorem startsApart_piecesBehindCondition (query : Query) :
    StartsApart query.piecesBehindCondition := by
  unfold piecesBehindCondition
  repeat refine StartsApart.append ?_ (startsApart_optionalPieces _ _ _)
  exact startsApart_optionalPieces _ _ _

theorem startsApart_aliasPieces (aliasName : Option String) :
    StartsApart (aliasPieces aliasName) := by
  cases aliasName with
  | none => exact .nil
  | some value => exact .cons rfl

/-- In front of the condition stands its word. -/
theorem approaches_piecesBeforeCondition (query : Query) :
    Approaches query.piecesBeforeCondition := by
  have isSplit (pieces : List Piece) :
      pieces ++ [.space, .keyword .whereWord, .space] =
        (pieces ++ [.space]) ++ [.keyword .whereWord, .space] := by
    simp
  rw [piecesBeforeCondition, isSplit]
  exact .keyword rfl _

namespace HasOperand

variable {query : Query} {operand : Operand}

/-- An operand and what is around it are all pieces of the query. -/
theorem pieces_eq (has : query.HasOperand operand) : query.pieces = operand.pieces := by
  cases has with
  | @column item operand before behind isColumn inner =>
      rw [Operand.pieces_within, ← inner.pieces_eq, pieces, isColumn, List.map_append,
        List.map_cons, separated_append_cons, item.pieces_eq]
      simp [piecesBehindColumns, piecesBehindCondition]
  | condition isCondition inner =>
      rw [Operand.pieces_within, ← inner.pieces_eq, pieces, isCondition]
      simp [piecesBeforeCondition, piecesBehindCondition, optionalPieces, clausePieces]

theorem isWellFormed (has : query.HasOperand operand) (isWellFormed : query.IsWellFormed) :
    operand.expression.IsWellFormed := by
  cases has with
  | @column item operand before behind isColumn inner =>
      have isIn : item ∈ query.select :=
        isColumn ▸ List.mem_append_right before List.mem_cons_self
      exact inner.isWellFormed (isWellFormed.columns item isIn).expression
  | condition isCondition inner =>
      exact inner.isWellFormed (isWellFormed.condition _ isCondition).1

/-- Behind what is in front of an operand of a query the operand is awaited. -/
theorem approaches (has : query.HasOperand operand) (isWellFormed : query.IsWellFormed) :
    Approaches operand.front := by
  cases has with
  | @column item operand before behind isColumn inner =>
      have isIn : item ∈ query.select :=
        isColumn ▸ List.mem_append_right before List.mem_cons_self
      have select : Approaches [.keyword .selectWord, .space] := .keyword rfl []
      exact
        (select.append (.rows _)).append
          (inner.approaches (isWellFormed.columns item isIn).expression)
  | condition isCondition inner =>
      exact
        query.approaches_piecesBeforeCondition.append
          (inner.approaches (isWellFormed.condition _ isCondition).1)

/-- What is behind an operand of a query keeps apart from it. -/
theorem startsApart (has : query.HasOperand operand) : StartsApart operand.back := by
  cases has with
  | @column item operand before behind isColumn inner =>
      refine inner.startsApart.append (.append (.append ?_ (.rows _)) ?_)
      · exact startsApart_aliasPieces _
      · exact .append (.append (startsApart_clausePieces _ _) (startsApart_optionalPieces _ _ _))
          query.startsApart_piecesBehindCondition
  | condition isCondition inner =>
      exact inner.startsApart.append query.startsApart_piecesBehindCondition

end HasOperand

end Query

end EventQuery
