import EventQuery.Proofs.Canonical.RoundTrip

/-!
# Numbers in their places

The text of a number is read back wherever a query may hold a number to compare
with: behind a comparison, or among the constants of a list, however deep in the
condition.  Which number stands there makes no difference to the rest of the
tree or to the text around it, so it is enough to know one number in the place.

The sign of a number is no part of its token.  An operand takes it as an
operator, which is one level of nesting, and a list takes it by itself; either
way the digits are read first, so the least whole number cannot be read back.
-/

namespace EventQuery

/--
A place for a number in an expression: behind a comparison or in a list, with all
that is around it.
-/
inductive NumberPlace where
  | compared (comparison : Comparison) (left : Expression)
  | listed (name : String) (before after : List Literal) (negated : Bool)
  | inLeft (operator : BinaryOperator) (place : NumberPlace) (right : Expression)
  | inRight (operator : BinaryOperator) (left : Expression) (place : NumberPlace)
  | inUnary (operator : UnaryOperator) (place : NumberPlace)
  | inCall (function : String) (before : List Expression) (place : NumberPlace)
      (after : List Expression)

namespace NumberPlace

/-- The expression with a number in the place. -/
def fill (number : Number) : NumberPlace → Expression
  | compared comparison left =>
      .binary (.comparison comparison) left (.literal (.number number))
  | listed name before after negated =>
      .member name (before ++ .number number :: after) negated
  | inLeft operator place right => .binary operator (place.fill number) right
  | inRight operator left place => .binary operator left (place.fill number)
  | inUnary operator place => .unary operator (place.fill number)
  | inCall function before place after =>
      .call function (before ++ place.fill number :: after)

variable {place : NumberPlace} {number other : Number}

/-! ## The shape of the tree -/

/-- Which number is in a place makes no difference to how tightly it all binds. -/
theorem exists_precedence (place : NumberPlace) :
    ∃ precedence, ∀ number, (place.fill number).precedence = precedence := by
  cases place with
  | inUnary operator place => cases operator <;> exact ⟨_, fun _ => rfl⟩
  | _ => exact ⟨_, fun _ => rfl⟩

theorem exists_startsWithMinus (place : NumberPlace) :
    ∃ startsWithMinus, ∀ number, (place.fill number).startsWithMinus = startsWithMinus := by
  cases place with
  | inUnary operator place => cases operator <;> exact ⟨_, fun _ => rfl⟩
  | _ => exact ⟨_, fun _ => rfl⟩

/-- What is around a place is no constant. -/
theorem fill_ne_literal (place : NumberPlace) (number : Number) (value : Literal) :
    place.fill number ≠ .literal value := by
  cases place <;> exact Expression.noConfusion

theorem fill_ne_wildcard (place : NumberPlace) (number : Number) :
    place.fill number ≠ .wildcard := by
  cases place <;> exact Expression.noConfusion

theorem isCondition_fill (place : NumberPlace) (number other : Number) :
    (place.fill number).isCondition = (place.fill other).isCondition := by
  induction place with
  | compared | listed | inCall => rfl
  | inLeft operator place right ih =>
      cases operator <;> simp only [fill, Expression.isCondition, ih]
  | inRight operator left place ih =>
      cases operator <;> simp only [fill, Expression.isCondition, ih]
  | inUnary operator place ih =>
      cases operator <;> simp only [fill, Expression.isCondition, ih]

theorem joinsConditions_fill (place : NumberPlace) (number other : Number) :
    (place.fill number).joinsConditions = (place.fill other).joinsConditions := by
  induction place with
  | compared | listed | inCall => rfl
  | inLeft operator place right ih =>
      have isCondition := place.isCondition_fill number other
      cases operator <;> simp only [fill, Expression.joinsConditions, isCondition, ih]
  | inRight operator left place ih =>
      have isCondition := place.isCondition_fill number other
      cases operator <;> simp only [fill, Expression.joinsConditions, isCondition, ih]
  | inUnary operator place ih =>
      have isCondition := place.isCondition_fill number other
      cases operator <;> simp only [fill, Expression.joinsConditions, isCondition, ih]

/-- No number makes an expression ill-formed. -/
theorem isWellFormed_fill
    (isWellFormed : (place.fill number).IsWellFormed) :
    (place.fill other).IsWellFormed := by
  induction place with
  | compared comparison left =>
      cases isWellFormed with
      | binary leftInner rightInner => exact .binary leftInner .literal
  | listed name before after negated =>
      cases isWellFormed with
      | member isName isNonempty => exact .member isName (by simp)
  | inLeft operator place right ih =>
      cases isWellFormed with
      | binary leftInner rightInner => exact .binary (ih leftInner) rightInner
  | inRight operator left place ih =>
      cases isWellFormed with
      | binary leftInner rightInner => exact .binary leftInner (ih rightInner)
  | inUnary operator place ih =>
      cases isWellFormed with
      | not inner => exact .not (ih inner)
      | negate inner isNoNumber =>
          exact .negate (ih inner) fun value => place.fill_ne_literal other (.number value)
  | inCall function before place after ih =>
      cases isWellFormed with
      | call isName inner =>
          have placeInner :=
            inner _ (List.mem_append_right before List.mem_cons_self)
              (place.fill_ne_wildcard number)
          refine .call isName fun argument isIn isNoStar => ?_
          rcases List.mem_append.mp isIn with isBefore | isBehind
          · exact inner argument (List.mem_append_left _ isBefore) isNoStar
          · rcases List.mem_cons.mp isBehind with rfl | isAfter
            · exact ih placeInner
            · exact
                inner argument (List.mem_append_right before (List.mem_cons_of_mem _ isAfter))
                  isNoStar

end NumberPlace

/-! ## What is around a number -/

/--
Rows that depend on a number in one part only: what is in front of that part and
what is behind it is the same for every number.
-/
def Surrounds {α : Type} (part whole : Number → List α) : Prop :=
  ∃ front back : List α, ∀ number : Number, whole number = front ++ (part number ++ back)

namespace Surrounds

variable {α : Type} {part whole : Number → List α}

theorem alone (part : Number → List α) : Surrounds part part :=
  ⟨[], [], fun _ => (List.append_nil _).symm⟩

theorem behind (front : List α) (surrounds : Surrounds part whole) :
    Surrounds part fun number => front ++ whole number := by
  obtain ⟨first, last, isWhole⟩ := surrounds
  exact ⟨front ++ first, last, fun number => by simp only [isWhole, List.append_assoc]⟩

theorem inFrontOf (back : List α) (surrounds : Surrounds part whole) :
    Surrounds part fun number => whole number ++ back := by
  obtain ⟨first, last, isWhole⟩ := surrounds
  exact ⟨first, last ++ back, fun number => by simp only [isWhole, List.append_assoc]⟩

theorem enclosed {part whole : Number → List Piece} (inParentheses : Bool)
    (surrounds : Surrounds part whole) :
    Surrounds part fun number => Piece.enclosed inParentheses (whole number) := by
  cases inParentheses with
  | false => exact surrounds
  | true => exact (surrounds.behind [.leftParenthesis]).inFrontOf [.rightParenthesis]

theorem separated {part whole : Number → List Piece} (before after : List (List Piece))
    (surrounds : Surrounds part whole) :
    Surrounds part fun number => Piece.separated (before ++ whole number :: after) := by
  induction before with
  | nil =>
      cases after with
      | nil => exact surrounds
      | cons next others =>
          exact
            (surrounds.inFrontOf [.comma, .space]).inFrontOf (Piece.separated (next :: others))
  | cons row before ih =>
      have step (number : Number) :
          Piece.separated (row :: before ++ whole number :: after) =
            row ++ [.comma, .space] ++ Piece.separated (before ++ whole number :: after) := by
        cases before <;> rfl
      simp only [step]
      exact ih.behind (row ++ [.comma, .space])

end Surrounds

theorem Expression.listNumbers_append (first second : List Expression) :
    listNumbers (first ++ second) = listNumbers first ++ listNumbers second := by
  induction first with
  | nil => rfl
  | cons expression others ih =>
      rw [List.cons_append, listNumbers, listNumbers, ih, List.append_assoc]

theorem Expression.listNesting_append (first second : List Expression) :
    listNesting (first ++ second) = max (listNesting first) (listNesting second) := by
  induction first with
  | nil => exact (Nat.zero_max _).symm
  | cons expression others ih =>
      rw [List.cons_append, listNesting, listNesting, ih, Nat.max_assoc]

namespace NumberPlace

/-- The numbers of an expression are that in a place and those around it. -/
theorem surrounds_numbers (place : NumberPlace) :
    Surrounds (fun number => [number]) fun number => (place.fill number).numbers := by
  induction place with
  | compared comparison left => exact (Surrounds.alone _).behind left.numbers
  | listed name before after negated =>
      have surrounds :=
        ((Surrounds.alone fun number => [number]).inFrontOf
          (after.flatMap Literal.numbers)).behind (before.flatMap Literal.numbers)
      simpa only [fill, Expression.numbers, List.flatMap_append, List.flatMap_cons,
        Literal.numbers] using surrounds
  | inLeft operator place right ih => exact ih.inFrontOf right.numbers
  | inRight operator left place ih => exact ih.behind left.numbers
  | inUnary operator place ih => exact ih
  | inCall function before place after ih =>
      have surrounds :=
        (ih.inFrontOf (Expression.listNumbers after)).behind (Expression.listNumbers before)
      simpa only [fill, Expression.numbers, Expression.listNumbers_append,
        Expression.listNumbers] using surrounds

/-- The canonical text of an expression is that of a number in a place and what is around it. -/
theorem surrounds_pieces (place : NumberPlace) :
    Surrounds Number.pieces fun number => (place.fill number).pieces := by
  induction place with
  | compared comparison left =>
      exact (Surrounds.alone _).behind _
  | listed name before after negated =>
      have row (number : Number) :
          (before ++ .number number :: after).map Literal.pieces =
            before.map Literal.pieces ++ number.pieces :: after.map Literal.pieces := by
        rw [List.map_append]
        rfl
      have constants :=
        (Surrounds.alone Number.pieces).separated (before.map Literal.pieces)
          (after.map Literal.pieces)
      simp only [fill, Expression.pieces, row]
      exact (constants.behind _).inFrontOf [.rightParenthesis]
  | inLeft operator place right ih =>
      obtain ⟨precedence, samePrecedence⟩ := place.exists_precedence
      simp only [fill, Expression.pieces, samePrecedence]
      exact ((ih.enclosed _).inFrontOf _).inFrontOf _
  | inRight operator left place ih =>
      obtain ⟨precedence, samePrecedence⟩ := place.exists_precedence
      simp only [fill, Expression.pieces, samePrecedence]
      exact (ih.enclosed _).behind _
  | inUnary operator place ih =>
      obtain ⟨precedence, samePrecedence⟩ := place.exists_precedence
      obtain ⟨startsWithMinus, sameStart⟩ := place.exists_startsWithMinus
      cases operator with
      | not =>
          simp only [fill, Expression.pieces, samePrecedence]
          exact (ih.enclosed _).behind [.keyword .notWord, .space]
      | negate =>
          simp only [fill, Expression.pieces, samePrecedence, sameStart]
          exact (ih.enclosed _).behind [.arithmetic .subtract]
  | inCall function before place after ih =>
      have row (number : Number) :
          Expression.listPieces (before ++ place.fill number :: after) =
            Expression.listPieces before ++
              (place.fill number).pieces :: Expression.listPieces after := by
        simp only [Expression.listPieces_eq_map, List.map_append, List.map_cons]
      have arguments := ih.separated (Expression.listPieces before) (Expression.listPieces after)
      simp only [fill, Expression.pieces, row]
      exact (arguments.behind [.name function, .leftParenthesis]).inFrontOf [.rightParenthesis]

/-! ## Nesting -/

/-- A number can need one level of nesting more than another one, for its sign. -/
theorem nesting_fill_le (place : NumberPlace) (number other : Number) :
    (place.fill number).nesting ≤ (place.fill other).nesting + 1 := by
  induction place with
  | compared comparison left =>
      have numberLe := Expression.nesting_number_le number
      have isAtom (number : Number) :
          (Expression.literal (.number number)).nestingAt
              (BinaryOperator.comparison comparison).rightLevel =
            (Expression.literal (.number number)).nesting :=
        Expression.nestingAt_of_atom rfl
      rw [fill, fill, Expression.nesting_binary, Expression.nesting_binary, isAtom, isAtom]
      omega
  | listed name before after negated => exact Nat.zero_le _
  | inLeft operator place right ih =>
      obtain ⟨precedence, samePrecedence⟩ := place.exists_precedence
      have bound := enclosedNesting_le_add_one (precedence < operator.leftDemand) ih
      simp only [fill, Expression.nesting, samePrecedence]
      omega
  | inRight operator left place ih =>
      obtain ⟨precedence, samePrecedence⟩ := place.exists_precedence
      have bound := enclosedNesting_le_add_one (precedence < operator.rightDemand) ih
      simp only [fill, Expression.nesting, samePrecedence]
      omega
  | inUnary operator place ih =>
      obtain ⟨precedence, samePrecedence⟩ := place.exists_precedence
      obtain ⟨startsWithMinus, sameStart⟩ := place.exists_startsWithMinus
      cases operator with
      | not =>
          have bound := enclosedNesting_le_add_one (precedence < negationPrecedence) ih
          simp only [fill, Expression.nesting, samePrecedence]
          omega
      | negate =>
          have bound :=
            enclosedNesting_le_add_one (startsWithMinus || precedence < atomPrecedence) ih
          simp only [fill, Expression.nesting, samePrecedence, sameStart]
          omega
  | inCall function before place after ih =>
      simp only [fill, Expression.nesting, Expression.listNesting_append, Expression.listNesting]
      omega

end NumberPlace

/-! ## Queries -/

namespace Query

variable {query : Query} {place : NumberPlace} {known : Number}

/-- A query with a number in a place of its condition. -/
def withNumber (query : Query) (place : NumberPlace) (number : Number) : Query :=
  { query with condition := some (place.fill number) }

theorem exists_pieces_withNumber (query : Query) (place : NumberPlace) :
    ∃ front back : List Piece, ∀ number : Number,
      (query.withNumber place number).pieces = front ++ (number.pieces ++ back) := by
  have condition :
      Surrounds Number.pieces fun number =>
        optionalPieces [.whereWord] Expression.pieces (some (place.fill number)) :=
    place.surrounds_pieces.behind _
  obtain ⟨front, back, arePieces⟩ := condition
  refine
    ⟨.keyword .selectWord :: .space :: (Piece.separated (query.select.map SelectItem.pieces) ++
      (clausePieces [.fromWord] (namePieces query.sources) ++ front)), ?back, fun number => ?pieces⟩
  case pieces =>
    simp only [withNumber, pieces, arePieces, List.append_assoc, List.cons_append]
    rfl

theorem exists_numbers_withNumber (query : Query) (place : NumberPlace) :
    ∃ before after : List Number, ∀ number : Number,
      (query.withNumber place number).numbers = before ++ number :: after := by
  obtain ⟨before, after, areNumbers⟩ := place.surrounds_numbers
  refine
    ⟨query.select.flatMap (fun item => Expression.listNumbers item.arguments) ++ before, after,
      fun number => ?_⟩
  simp only [withNumber, numbers, Option.toList_some, List.flatMap_singleton, areNumbers,
    List.append_assoc, List.singleton_append]

/-- What a query needs of a number in a place is that the number has an opposite. -/
theorem isWellFormed_withNumber {number : Number}
    (isWellFormed : (query.withNumber place known).IsWellFormed)
    (isNotLeast : number ≠ .integer Int64.minValue) :
    (query.withNumber place number).IsWellFormed := by
  obtain ⟨before, after, areNumbers⟩ := query.exists_numbers_withNumber place
  have others := isWellFormed.numbers
  rw [areNumbers] at others
  obtain ⟨inner, isCondition, joinsConditions⟩ := isWellFormed.condition _ rfl
  exact
    { selects := isWellFormed.selects
      columns := isWellFormed.columns
      hasSources := isWellFormed.hasSources
      sources := isWellFormed.sources
      condition := by
        intro expression isIn
        cases isIn
        rw [place.isCondition_fill number known, place.joinsConditions_fill number known]
        exact ⟨NumberPlace.isWellFormed_fill inner, isCondition, joinsConditions⟩
      facet := isWellFormed.facet
      limit := isWellFormed.limit
      since := isWellFormed.since
      upTo := isWellFormed.upTo
      compareWith := isWellFormed.compareWith
      timeseries := isWellFormed.timeseries
      numbers := by
        rw [areNumbers]
        simp only [List.forall_mem_append, List.forall_mem_cons] at others ⊢
        exact ⟨others.1, isNotLeast, others.2.2⟩ }

theorem areFinite_withNumber {number : Number}
    (areFinite : ∀ value ∈ (query.withNumber place known).numbers, value.isFinite = true)
    (isFinite : number.isFinite = true) :
    ∀ value ∈ (query.withNumber place number).numbers, value.isFinite = true := by
  obtain ⟨before, after, areNumbers⟩ := query.exists_numbers_withNumber place
  rw [areNumbers] at areFinite ⊢
  simp only [List.forall_mem_append, List.forall_mem_cons] at areFinite ⊢
  exact ⟨areFinite.1, isFinite, areFinite.2.2⟩

theorem nesting_withNumber_le (query : Query) (place : NumberPlace) (number other : Number) :
    (query.withNumber place number).nesting ≤ (query.withNumber place other).nesting + 1 := by
  have bound := place.nesting_fill_le number other
  simp only [nesting, withNumber, Option.toList_some, Expression.listNesting]
  omega

/--
Whatever finite number is put in a place for one, the text of the number stands
in the same surroundings, and there it is read as that number again, of the same
class and with the same sign.  Only the least whole number is not read back.
-/
theorem parseWithin_withNumber_iff {maxDepth : Nat}
    (isWellFormed : (query.withNumber place known).IsWellFormed)
    (areFinite : ∀ value ∈ (query.withNumber place known).numbers, value.isFinite = true)
    (isDeep : (query.withNumber place known).nesting < maxDepth) :
    ∃ front back : String, ∀ number : Number, number.isFinite = true →
      (query.withNumber place number).text = front ++ number.text ++ back ∧
        (parseWithin ⟨maxDepth, none⟩ (front ++ number.text ++ back) =
            .ok (query.withNumber place number) ↔
          number ≠ .integer Int64.minValue) := by
  obtain ⟨front, back, arePieces⟩ := query.exists_pieces_withNumber place
  refine ⟨Piece.textOf front, Piece.textOf back, fun number isFinite => ?_⟩
  have isText :
      (query.withNumber place number).text =
        Piece.textOf front ++ number.text ++ Piece.textOf back := by
    rw [text, arePieces, Piece.textOf_append, Piece.textOf_append, String.append_assoc]
    rfl
  refine ⟨isText, ?_⟩
  rw [← isText]
  constructor
  · intro isRead
    obtain ⟨_, phrase⟩ := TokenStream.phrase_of_query_ofSource isRead
    have wellFormed := phrase.isWellFormed fun _ isToken => TokenStream.isProper_ofSource isToken
    obtain ⟨before, after, areNumbers⟩ := query.exists_numbers_withNumber place
    refine wellFormed.numbers number ?_
    rw [areNumbers]
    exact List.mem_append_right before List.mem_cons_self
  · intro isNotLeast
    have nestingLe := query.nesting_withNumber_le place number known
    exact
      parseWithin_text_of_nesting_le (isWellFormed_withNumber isWellFormed isNotLeast)
        (areFinite_withNumber areFinite isFinite) (by omega)

/-- A query whose condition has yet to be given. -/
def counted : Query where
  select := [⟨"count", [.wildcard], none⟩]
  sources := ["sale"]

/-- A place in a list, in a negated condition behind another one. -/
def listedPlace : NumberPlace :=
  .inRight (.logical .or)
    (.binary (.comparison .less) (.field "x") (.literal (.number (.integer (-1)))))
    (.inUnary .not (.listed "y" [.string "a"] [.boolean true] false))

theorem isWellFormed_listedPlace : (counted.withNumber listedPlace (.integer 0)).IsWellFormed where
  selects := by simp [withNumber, counted]
  columns := by
    intro item isIn
    obtain rfl := List.mem_singleton.mp isIn
    exact SelectItem.isWellFormed_countAll none
  hasSources := by simp [withNumber, counted]
  sources := by simp [withNumber, counted, IsName]
  condition := by
    intro expression isIn
    cases isIn
    have areNames : IsName "x" ∧ IsName "y" := by simp [IsName]
    exact
      ⟨.binary (.binary (.field areNames.1) .literal) (.not (.member areNames.2 (by simp))), rfl,
        rfl⟩
  facet := by simp [withNumber, counted]
  limit := by simp [withNumber, counted]
  since := by simp [withNumber, counted]
  upTo := by simp [withNumber, counted]
  compareWith := by simp [withNumber, counted]
  timeseries := by simp [withNumber, counted]
  numbers := by
    intro number isIn
    have isOneOf : number ∈ [Number.integer (-1), Number.integer 0] := isIn
    revert isOneOf
    revert number
    decide

theorem parseWithin_withNumber_iff_listedPlace :
    parseWithin ⟨2, none⟩
        "SELECT count(*) FROM sale WHERE x < -1 OR NOT y IN ('a', -0.0, true)" =
      .ok (counted.withNumber listedPlace (.float (.ofRank true 0))) := by
  have areFinite :
      ∀ value ∈ (counted.withNumber listedPlace (.integer 0)).numbers, value.isFinite = true := by
    intro value isIn
    have isOneOf : value ∈ [Number.integer (-1), Number.integer 0] := isIn
    revert isOneOf
    revert value
    decide
  have isDeep : (counted.withNumber listedPlace (.integer 0)).nesting < 2 := by decide +kernel
  obtain ⟨front, back, isRead⟩ :=
    parseWithin_withNumber_iff isWellFormed_listedPlace areFinite isDeep
  obtain ⟨isText, reads⟩ := isRead (.float (.ofRank true 0)) rfl
  have text :
      (counted.withNumber listedPlace (.float (.ofRank true 0))).text =
        "SELECT count(*) FROM sale WHERE x < -1 OR NOT y IN ('a', -0.0, true)" := by
    decide +kernel
  rw [← isText, text] at reads
  exact reads.mpr Number.noConfusion

/-- The least whole number has a text that is refused in either place. -/
theorem refuses_leastNumber :
    (Number.integer Int64.minValue).text = "-9223372036854775808" ∧
      parseWithin ⟨64, none⟩ "SELECT count(*) FROM sale WHERE x = -9223372036854775808" =
        .error (.lex ⟨1, 38⟩ (.numberOutOfRange "9223372036854775808".toList)) ∧
      parseWithin ⟨64, none⟩ "SELECT count(*) FROM sale WHERE x IN (-9223372036854775808)" =
        .error (.lex ⟨1, 40⟩ (.numberOutOfRange "9223372036854775808".toList)) := by
  exact ⟨by decide +kernel, by cbv, by cbv⟩

end Query

end EventQuery
