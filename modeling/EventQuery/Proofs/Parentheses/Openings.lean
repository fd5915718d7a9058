import EventQuery.Proofs.Parentheses.Operands

/-!
# What parentheses of canonical text are there for

Every parenthesis of canonical text opens the arguments of a call, the list of a test,
or an operand that stands in parentheses.
-/

namespace EventQuery

open Piece

/-- What a parenthesis behind some pieces opens. -/
inductive Opens (isOperand : Operand → Prop) : List Piece → Prop where
  | call (before : List Piece) (function : String) :
      Opens isOperand (before ++ [.name function])
  | list (before : List Piece) :
      Opens isOperand (before ++ [.keyword .inWord, .space])
  | operand {operand : Operand}
      (has : isOperand operand)
      (isWrapped : operand.inParentheses = true) :
      Opens isOperand operand.front

/-- Every parenthesis among pieces behind others opens one of these. -/
def AllOpen (isOperand : Operand → Prop) (front pieces : List Piece) : Prop :=
  ∀ before rest : List Piece, pieces = before ++ .leftParenthesis :: rest →
    Opens isOperand (front ++ before)

namespace AllOpen

variable {isOperand : Operand → Prop} {front first second : List Piece}

theorem none {pieces : List Piece} (hasNone : .leftParenthesis ∉ pieces) :
    AllOpen isOperand front pieces := by
  rintro before rest rfl
  exact absurd (List.mem_append_right before List.mem_cons_self) hasNone

theorem append (firstOpen : AllOpen isOperand front first)
    (secondOpen : AllOpen isOperand (front ++ first) second) :
    AllOpen isOperand front (first ++ second) := by
  intro before rest isSplit
  rcases List.append_eq_append_iff.mp isSplit with
    ⟨between, rfl, isSecond⟩ | ⟨between, isFirst, isRest⟩
  · exact List.append_assoc .. ▸ secondOpen between rest isSecond
  · cases between with
    | nil =>
        rw [List.append_nil] at isFirst
        subst isFirst
        simpa using secondOpen [] rest isRest.symm
    | cons piece between =>
        obtain ⟨rfl, _⟩ := List.cons.inj isRest
        exact firstOpen before between isFirst

/-- A parenthesis behind some pieces opens what stands there. -/
theorem cons {pieces : List Piece} (opens : Opens isOperand front)
    (restOpen : AllOpen isOperand (front ++ [.leftParenthesis]) pieces) :
    AllOpen isOperand front (.leftParenthesis :: pieces) := by
  intro before rest isSplit
  cases before with
  | nil => exact (List.append_nil front).symm ▸ opens
  | cons piece before =>
      obtain ⟨rfl, isRest⟩ := List.cons.inj isSplit
      simpa using restOpen before rest isRest

theorem separated {rows : List (List Piece)}
    (areOpen :
      ∀ before row behind, rows = before ++ row :: behind →
        AllOpen isOperand (front ++ rowsBefore before) row) :
    AllOpen isOperand front (Piece.separated rows) := by
  induction rows generalizing front with
  | nil => exact none List.not_mem_nil
  | cons row rows ih =>
      have first : AllOpen isOperand front row := by
        simpa [rowsBefore] using areOpen [] row rows rfl
      cases rows with
      | nil => exact first
      | cons second rows =>
          rw [Piece.separated]
          · refine (first.append (none (by decide))).append (ih ?_)
            intro before other behind isSplit
            have later := areOpen (row :: before) other behind (isSplit ▸ rfl)
            rwa [rowsBefore, List.flatMap_cons, ← List.append_assoc] at later
          · simp

/-- With more pieces around, parentheses open what they do without these. -/
theorem within {isInner : Operand → Prop} {pieces back : List Piece}
    (isOpen : AllOpen isInner [] pieces)
    (surrounds : ∀ operand, isInner operand → isOperand (operand.within front back)) :
    AllOpen isOperand front pieces := by
  intro before rest isSplit
  have opens := isOpen before rest isSplit
  rw [List.nil_append] at opens
  cases opens with
  | call before function => exact List.append_assoc .. ▸ .call (front ++ before) function
  | list before => exact List.append_assoc .. ▸ .list (front ++ before)
  | @operand inner has isWrapped =>
      exact @Opens.operand isOperand (inner.within front back) (surrounds inner has) isWrapped

/-- Inside of an operand parentheses open what they do in the operand alone. -/
theorem enclosed {expression : Expression} {outer : Operand}
    (has : expression.HasOperand outer)
    (isOpen : AllOpen outer.expression.HasOperand [] outer.expression.pieces) :
    AllOpen expression.HasOperand outer.front
      (Piece.enclosed outer.inParentheses outer.expression.pieces) := by
  have inner := isOpen.within fun _ hasInner => Expression.HasOperand.inside has hasInner
  cases isWrapped : outer.inParentheses with
  | false =>
      rw [isWrapped] at inner
      exact List.append_nil outer.front ▸ inner
  | true =>
      rw [isWrapped] at inner
      exact .cons (.operand has isWrapped) (inner.append (none (by decide)))

end AllOpen

theorem Piece.leftParenthesis_notMem_separated {rows : List (List Piece)}
    (haveNone : ∀ row ∈ rows, .leftParenthesis ∉ row) :
    .leftParenthesis ∉ separated rows := by
  fun_induction separated rows with
  | case1 => exact List.not_mem_nil
  | case2 row => exact haveNone row List.mem_cons_self
  | case3 row rows _ ih =>
      obtain ⟨first, others⟩ := List.forall_mem_cons.mp haveNone
      simp [first, ih others]

/-! ## Expressions -/

theorem BinaryOperator.leftParenthesis_ne_piece (operator : BinaryOperator) :
    .leftParenthesis ≠ operator.piece := by
  rcases operator with connective | comparison | operator
  · cases connective <;> simp [piece]
  · simp [piece]
  · simp [piece]

theorem Literal.leftParenthesis_notMem_pieces (value : Literal) :
    .leftParenthesis ∉ value.pieces := by
  cases value with
  | number number =>
      rw [pieces, number.pieces_eq]
      cases number.isNegative <;> cases number <;> simp [sign, Number.unsignedPiece]
  | string value => simp [pieces]
  | boolean value => simp [pieces]

namespace Expression

/-- Every parenthesis of the text of an expression is a call's, a test's or an operand's. -/
theorem IsWellFormed.allOpen {expression : Expression}
    (isWellFormed : expression.IsWellFormed) :
    AllOpen expression.HasOperand [] expression.pieces := by
  induction isWellFormed with
  | @literal value => exact .none value.leftParenthesis_notMem_pieces
  | field => exact .none (by simp [pieces])
  | @call function arguments isName inner ih =>
      have argumentsOpen :
          AllOpen (Expression.call function arguments).HasOperand
            [.name function, .leftParenthesis] (separated (listPieces arguments)) := by
        refine .separated fun before row behind isSplit => ?_
        rw [listPieces_eq_map] at isSplit
        obtain ⟨firsts, others, rfl, rfl, isOther⟩ := List.map_eq_append_iff.mp isSplit
        obtain ⟨argument, lasts, rfl, rfl, rfl⟩ := List.map_eq_cons_iff.mp isOther
        by_cases isStar : argument = .wildcard
        · rw [isStar]
          exact .none (by simp [pieces])
        · have isIn : argument ∈ firsts ++ argument :: lasts :=
            List.mem_append_right firsts List.mem_cons_self
          rw [← listPieces_eq_map]
          exact .enclosed (.argument function firsts lasts isStar) (ih argument isIn isStar)
      have named :
          AllOpen (Expression.call function arguments).HasOperand [] [.name function] :=
        .none (by simp)
      exact .append (named.append (.cons (.call [] function) argumentsOpen)) (.none (by decide))
  | @binary operator left right _ _ leftIh rightIh =>
      have between :
          AllOpen (Expression.binary operator left right).HasOperand
            (enclosed (left.precedence < operator.leftDemand) left.pieces)
            [.space, operator.piece, .space] :=
        .none (by simp [operator.leftParenthesis_ne_piece])
      refine .append (.append (.enclosed (.left operator left right) leftIh) between) ?_
      exact .enclosed (.right operator left right) rightIh
  | @not operand _ ih =>
      have word :
          AllOpen (Expression.unary .not operand).HasOperand []
            [.keyword .notWord, .space] :=
        .none (by decide)
      exact word.append (.enclosed (.not operand) ih)
  | @negate operand _ _ ih =>
      have sign :
          AllOpen (Expression.unary .negate operand).HasOperand [] [.arithmetic .subtract] :=
        .none (by decide)
      exact sign.append (.enclosed (.negate operand) ih)
  | @member name values negated isName isNonempty =>
      have isSplit :
          pieces (.member name values negated) =
            (.name name :: .space :: ((if negated then [.keyword .notWord, .space] else []) ++
              [.keyword .inWord, .space])) ++
              (.leftParenthesis :: separated (values.map Literal.pieces)) ++
              [.rightParenthesis] := by
        simp [pieces]
      rw [isSplit]
      refine .append (.append (.none ?_) (.cons ?_ ?_)) (.none (by decide))
      · cases negated <;> simp
      · exact .list (.name name :: .space :: if negated then [.keyword .notWord, .space] else [])
      · refine .none (leftParenthesis_notMem_separated fun row isIn => ?_)
        obtain ⟨value, _, rfl⟩ := List.mem_map.mp isIn
        exact value.leftParenthesis_notMem_pieces
  | @matching name pattern negated => exact .none (by cases negated <;> simp [pieces])

end Expression

/-! ## Queries -/

theorem TimeSpec.leftParenthesis_notMem_pieces (spec : TimeSpec) :
    .leftParenthesis ∉ spec.pieces := by
  cases spec <;> simp [pieces]

theorem Bucketing.leftParenthesis_notMem_pieces (bucketing : Bucketing) :
    .leftParenthesis ∉ bucketing.pieces := by
  cases bucketing <;> simp [pieces]

namespace Query

theorem leftParenthesis_notMem_namePieces (names : List String) :
    .leftParenthesis ∉ namePieces names := by
  refine leftParenthesis_notMem_separated fun row isIn => ?_
  obtain ⟨name, _, rfl⟩ := List.mem_map.mp isIn
  simp

theorem leftParenthesis_notMem_clausePieces {body : List Piece} (keywords : List Keyword)
    (hasNone : .leftParenthesis ∉ body) :
    .leftParenthesis ∉ clausePieces keywords body := by
  simp [clausePieces, hasNone]

theorem leftParenthesis_notMem_optionalPieces {α : Type} {body : α → List Piece}
    (keywords : List Keyword)
    (hasNone : ∀ value, .leftParenthesis ∉ body value)
    (value : Option α) :
    .leftParenthesis ∉ optionalPieces keywords body value := by
  cases value with
  | none => exact List.not_mem_nil
  | some present => exact leftParenthesis_notMem_clausePieces keywords (hasNone present)

theorem leftParenthesis_notMem_piecesBehindCondition (query : Query) :
    .leftParenthesis ∉ query.piecesBehindCondition := by
  have times (keywords : List Keyword) (spec : Option TimeSpec) :
      .leftParenthesis ∉ optionalPieces keywords TimeSpec.pieces spec :=
    leftParenthesis_notMem_optionalPieces keywords TimeSpec.leftParenthesis_notMem_pieces spec
  unfold piecesBehindCondition
  simp only [List.mem_append, not_or, times, not_false_eq_true, and_true]
  refine ⟨⟨?_, ?_⟩, ?_⟩
  · exact leftParenthesis_notMem_optionalPieces _ leftParenthesis_notMem_namePieces _
  · exact leftParenthesis_notMem_optionalPieces _ (fun _ => by simp) _
  · exact
      leftParenthesis_notMem_optionalPieces _ Bucketing.leftParenthesis_notMem_pieces _

/-- Every parenthesis of the canonical text of a query is a call's, a test's or an operand's. -/
theorem IsWellFormed.allOpen {query : Query} (isWellFormed : query.IsWellFormed) :
    AllOpen query.HasOperand [] query.pieces := by
  have select : AllOpen query.HasOperand [] [.keyword .selectWord, .space] :=
    .none (by decide)
  have columns :
      AllOpen query.HasOperand [.keyword .selectWord, .space]
        (separated (query.select.map SelectItem.pieces)) := by
    refine .separated fun before row behind isSplit => ?_
    obtain ⟨firsts, others, isSelect, rfl, isOther⟩ := List.map_eq_append_iff.mp isSplit
    obtain ⟨item, lasts, rfl, rfl, rfl⟩ := List.map_eq_cons_iff.mp isOther
    have isIn : item ∈ query.select :=
      isSelect ▸ List.mem_append_right firsts List.mem_cons_self
    have column := (isWellFormed.columns item isIn).expression.allOpen
    rw [item.pieces_eq]
    refine .append (column.within fun operand has => .column firsts lasts isSelect has) (.none ?_)
    cases item.aliasName <;> simp [aliasPieces]
  have condition :
      AllOpen query.HasOperand
        ([.keyword .selectWord, .space] ++ separated (query.select.map SelectItem.pieces) ++
          clausePieces [.fromWord] (namePieces query.sources))
        (optionalPieces [.whereWord] Expression.pieces query.condition) := by
    cases isCondition : query.condition with
    | none => exact .none List.not_mem_nil
    | some condition =>
        have inner := (isWellFormed.condition condition isCondition).1.allOpen
        have behindWord :
            AllOpen query.HasOperand query.piecesBeforeCondition condition.pieces :=
          inner.within fun operand has => .condition isCondition has
        have word (front : List Piece) :
            AllOpen query.HasOperand front [.space, .keyword .whereWord, .space] :=
          .none (by decide)
        exact (word _).append behindWord
  have isSplit :
      query.pieces =
        [.keyword .selectWord, .space] ++ separated (query.select.map SelectItem.pieces) ++
          clausePieces [.fromWord] (namePieces query.sources) ++
          optionalPieces [.whereWord] Expression.pieces query.condition ++
          query.piecesBehindCondition := by
    simp [pieces, piecesBehindCondition]
  rw [isSplit]
  refine .append (.append (.append (select.append columns) (.none ?_)) condition) (.none ?_)
  · exact leftParenthesis_notMem_clausePieces _ (leftParenthesis_notMem_namePieces _)
  · exact query.leftParenthesis_notMem_piecesBehindCondition

end Query

end EventQuery
