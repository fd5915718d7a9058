import EventQuery.Proofs.Grammar.Acceptance
import EventQuery.Proofs.Grammar.WellFormed
import EventQuery.Proofs.Parentheses.Agreement
import EventQuery.Proofs.Parentheses.Openings
import EventQuery.Proofs.Parentheses.Reading

/-!
# No parentheses are redundant

Every text of a query weighs at least as much as the query does, on any scale, and the
canonical text weighs no more.  Without the parentheses of one operand the canonical
text is lighter on some scale, so it is no text of the query any more.  Mostly that is
the scale of parentheses.  But where two minus signs come together they start a comment,
and what the comment hides may be made up for by names that go over several lines.
-/

namespace EventQuery

open Piece

/-! ## Seams -/

/-- What is behind an operand may touch whatever it is behind. -/
theorem StartsApart.areLegible_append {first second : List Piece}
    (startsApart : StartsApart second)
    (firstLegible : AreLegible first)
    (secondLegible : AreLegible second) :
    AreLegible (first ++ second) :=
  firstLegible.append secondLegible fun _ _ next isNext =>
    Or.inr (Or.inl (startsApart next isNext))

namespace Approaches

variable {front inside : List Piece}

/-- What is in front of an operand may touch it, unless two minus signs come together. -/
theorem areLegible_append (approaches : Approaches front)
    (frontLegible : AreLegible front)
    (insideLegible : AreLegible inside)
    (isApart :
      front.getLast? = some (.arithmetic .subtract) →
        inside.head? ≠ some (.arithmetic .subtract)) :
    AreLegible (front ++ inside) := by
  refine frontLegible.append insideLegible fun last isLast next isNext => ?_
  cases approaches with
  | start => cases isLast
  | apart isSeparator _ =>
      rw [List.getLast?_concat] at isLast
      cases isLast
      exact Or.inl isSeparator
  | signed _ =>
      rw [List.getLast?_concat] at isLast
      cases isLast
      refine Or.inr (Or.inr ⟨rfl, ?_⟩)
      rintro rfl
      exact isApart List.getLast?_concat isNext

/-- An operand is awaited behind what is in front of it, maybe right behind its sign. -/
theorem through_awaiting (approaches : Approaches front) :
    Mood.awaiting.through (marks front) = .awaiting ∨
      Mood.awaiting.through (marks front) = .signed ∧
        front.getLast? = some (.arithmetic .subtract) := by
  cases approaches with
  | start => exact Or.inl rfl
  | apart _ isAwaited => exact Or.inl (isAwaited .awaiting nofun)
  | signed isSigned => exact Or.inr ⟨isSigned .awaiting nofun, List.getLast?_concat⟩

end Approaches

/-! ## Lighter texts -/

namespace Operand

variable {operand : Operand}

/-- All pieces around an operand, and those of the operand without parentheses. -/
def barePieces (operand : Operand) : List Piece :=
  operand.front ++ (operand.expression.pieces ++ operand.back)

theorem textOf_barePieces (operand : Operand) :
    textOf operand.front ++ operand.expression.text ++ textOf operand.back =
      textOf operand.barePieces := by
  rw [barePieces, textOf_append, textOf_append, String.append_assoc]
  rfl

theorem textOf_pieces (operand : Operand) (isWrapped : operand.inParentheses = true) :
    textOf operand.pieces =
      textOf operand.front ++ "(" ++ operand.expression.text ++ ")" ++ textOf operand.back := by
  have isEnclosed :
      textOf (enclosed true operand.expression.pieces) =
        "(" ++ operand.expression.text ++ ")" := by
    rw [enclosed, if_pos rfl, ← List.singleton_append, List.append_assoc, textOf_append,
      textOf_append, ← String.append_assoc]
    rfl
  rw [pieces, isWrapped, textOf_append, textOf_append, isEnclosed]
  simp only [String.append_assoc]

/-- Parentheses weigh the same wherever they stand, and what they enclose no more. -/
theorem total_pieces_of_isWrapped (scale : Scale)
    (isWellFormed : operand.expression.IsWellFormed)
    (isWrapped : operand.inParentheses = true) :
    scale.total .awaiting (marks operand.pieces) =
      scale.total .awaiting (marks operand.front) +
        (scale.opening +
          (scale.total .awaiting (marks operand.expression.pieces) +
            scale.total .ended (marks operand.back))) := by
  have ends := (operand.expression.isWeighed_pieces isWellFormed scale).ends
  simp [pieces, enclosed, isWrapped, ends]

/-- Where no two signs come together, nothing but the parentheses is missing. -/
theorem total_barePieces (scale : Scale)
    (isWellFormed : operand.expression.IsWellFormed)
    (approaches : Approaches operand.front)
    (isApart :
      operand.front.getLast? = some (.arithmetic .subtract) →
        operand.expression.pieces.head? ≠ some (.arithmetic .subtract)) :
    scale.total .awaiting (marks operand.barePieces) =
      scale.total .awaiting (marks operand.front) +
        (scale.total .awaiting (marks operand.expression.pieces) +
          scale.total .ended (marks operand.back)) := by
  have ends := (operand.expression.isWeighed_pieces isWellFormed scale).ends
  have sameInside :
      scale.total (Mood.awaiting.through (marks operand.front))
          (marks operand.expression.pieces) =
        scale.total .awaiting (marks operand.expression.pieces) := by
    rcases approaches.through_awaiting with isAwaiting | ⟨isSigned, isSign⟩
    · rw [isAwaiting]
    · rw [isSigned]
      refine scale.total_signed_of_head? fun isMinus => isApart isSign ?_
      exact isWellFormed.startsWithToken.head?_of_minus isMinus
  simp [barePieces, ends, sameInside]

/-- Where no two signs come together, the text without the parentheses has one pair less. -/
theorem total_parentheses_lt
    (isWellFormed : operand.expression.IsWellFormed)
    (approaches : Approaches operand.front)
    (startsApart : StartsApart operand.back)
    (legible : AreLegible operand.pieces)
    (isWrapped : operand.inParentheses = true)
    (isApart :
      operand.front.getLast? = some (.arithmetic .subtract) →
        operand.expression.pieces.head? ≠ some (.arithmetic .subtract)) :
    Scale.parentheses.total .awaiting
        ((TokenStream.ofSource (textOf operand.barePieces) none).tokens.map Token.mark) <
      Scale.parentheses.total .awaiting (marks operand.pieces) := by
  have frontLegible := legible.left
  have wrappedLegible := legible.right.left
  rw [isWrapped] at wrappedLegible
  have insideLegible : AreLegible operand.expression.pieces :=
    (@AreLegible.right [.leftParenthesis] _ wrappedLegible).left
  have bareLegible : AreLegible operand.barePieces := by
    rw [barePieces, ← List.append_assoc]
    exact
      startsApart.areLegible_append
        (approaches.areLegible_append frontLegible insideLegible isApart) legible.right.right
  obtain ⟨tokens, ending, isAll, areRead⟩ :=
    TokenStream.exists_ofSource_textOf bareLegible.areReadable bareLegible.isChain
  have isOne : Scale.parentheses.opening = 1 := rfl
  rw [isAll, Scale.total_of_areReadAs areRead,
    total_barePieces Scale.parentheses isWellFormed approaches isApart,
    total_pieces_of_isWrapped Scale.parentheses isWellFormed isWrapped, isOne]
  omega

/-- Where two signs come together, they stand as two dashes. -/
theorem toList_textOf_barePieces {before rest : List Piece}
    (isFront : operand.front = before ++ [.arithmetic .subtract])
    (isInside : operand.expression.pieces = .arithmetic .subtract :: rest) :
    (textOf operand.barePieces).toList =
      (textOf before).toList ++ '-' :: '-' :: (textOf (rest ++ operand.back)).toList := by
  simp only [barePieces, isFront, isInside, List.append_assoc, List.cons_append,
    List.nil_append, textOf_append before, String.toList_append, toList_textOf_cons]
  rfl

/-- A sign adds no end of a line, and neither do the parentheses around what it opens. -/
theorem total_lines_pieces {before rest : List Piece}
    (isWellFormed : operand.expression.IsWellFormed)
    (isWrapped : operand.inParentheses = true)
    (isFront : operand.front = before ++ [.arithmetic .subtract])
    (isInside : operand.expression.pieces = .arithmetic .subtract :: rest) :
    Scale.lines.total .awaiting (marks operand.pieces) =
      countLines (textOf before).toList + countLines (textOf (rest ++ operand.back)).toList := by
  have isSign (pieces : List Piece) :
      Scale.lines.total .awaiting (marks (.arithmetic .subtract :: pieces)) =
        Scale.lines.total .awaiting (marks pieces) := by
    rw [marks_minus, Scale.total_cons, Scale.total_lines (Mood.after _ _)]
    exact Nat.zero_add _
  have isNothing : Scale.lines.opening = 0 := rfl
  rw [total_pieces_of_isWrapped Scale.lines isWellFormed isWrapped, isFront, isInside, isSign,
    Scale.total_lines .ended, countLines_textOf, countLines_textOf, marks_append, marks_append,
    Scale.total_lines_append, Scale.total_lines_append, isSign, isNothing]
  simp

/-- Where two signs come together, the text without the parentheses has a comment. -/
theorem exists_scale_of_signs
    (isWellFormed : operand.expression.IsWellFormed)
    (legible : AreLegible operand.pieces)
    (isWrapped : operand.inParentheses = true)
    (isSign : operand.front.getLast? = some (.arithmetic .subtract))
    (isSigned : operand.expression.pieces.head? = some (.arithmetic .subtract)) :
    ∃ scale : Scale,
      scale.total .awaiting
          ((TokenStream.ofSource (textOf operand.barePieces) none).tokens.map Token.mark) <
        scale.total .awaiting (marks operand.pieces) := by
  obtain ⟨before, isFront⟩ := List.getLast?_eq_some_iff.mp isSign
  obtain ⟨rest, isInside⟩ := List.head?_eq_some_iff.mp isSigned
  have frontLegible := legible.left
  rw [isFront] at frontLegible
  have endsApart : ∀ last ∈ before.getLast?, last.isSeparator = true := by
    intro last isLast
    have mayTouch :=
      (List.isChain_append.mp frontLegible.isChain).2.2 last isLast (.arithmetic .subtract) rfl
    simpa [MayTouch, isSeparator] using mayTouch
  obtain ⟨tokens, others, isAll, areRead, isLost⟩ :=
    TokenStream.exists_ofSource_comment (toList_textOf_barePieces isFront isInside)
      frontLegible.left endsApart
  rw [isAll, List.map_append]
  -- Later lines may bring any parentheses, but no end of a line that was not there before.
  rcases isLost with rfl | isLost
  · refine ⟨.parentheses, ?_⟩
    have isOne : Scale.parentheses.opening = 1 := rfl
    rw [List.map_nil, List.append_nil, Scale.total_of_areReadAs areRead,
      total_pieces_of_isWrapped Scale.parentheses isWellFormed isWrapped, isFront, isOne,
      marks_append, Scale.total_append]
    omega
  · refine ⟨.lines, ?_⟩
    have areScanned : ∀ token ∈ tokens ++ others, token.IsScanned := fun token isIn =>
      TokenStream.isScanned_of_mem (isAll ▸ isIn)
    obtain ⟨tokensScanned, othersScanned⟩ := List.forall_mem_append.mp areScanned
    have tokensLe := Scale.total_lines_le tokensScanned
    have othersLe := Scale.total_lines_le othersScanned
    rw [areRead.sum_countLines] at tokensLe
    rw [total_lines_pieces isWellFormed isWrapped isFront isInside, Scale.total_lines_append]
    omega

/-- On some scale the text without the parentheses of an operand is the lighter one. -/
theorem exists_scale
    (isWellFormed : operand.expression.IsWellFormed)
    (approaches : Approaches operand.front)
    (startsApart : StartsApart operand.back)
    (legible : AreLegible operand.pieces)
    (isWrapped : operand.inParentheses = true) :
    ∃ scale : Scale,
      scale.total .awaiting
          ((TokenStream.ofSource (textOf operand.barePieces) none).tokens.map Token.mark) <
        scale.total .awaiting (marks operand.pieces) := by
  by_cases signsMeet :
      operand.front.getLast? = some (.arithmetic .subtract) ∧
        operand.expression.pieces.head? = some (.arithmetic .subtract)
  · exact exists_scale_of_signs isWellFormed legible isWrapped signsMeet.1 signsMeet.2
  · exact
      ⟨.parentheses,
        total_parentheses_lt isWellFormed approaches startsApart legible isWrapped
          fun isSign isSigned => signsMeet ⟨isSign, isSigned⟩⟩

end Operand

/-! ## Other texts -/

/-- A text that is read without error is read the same without a limit. -/
theorem TokenStream.ofSource_eq_of_isErrorFree {source : String} {limit : Option Nat}
    (isErrorFree : (ofSource source limit).IsErrorFree) :
    ofSource source limit = ofSource source none := by
  rcases fitsWithin_or_exceeds source limit with fits | ⟨bound, rfl, exceeds⟩
  · exact ofSource_eq_of_fits fits nofun
  · obtain ⟨position, character, isRefused⟩ := ofSource_of_exceeds exceeds
    obtain ⟨ending, endsWell, _⟩ := isErrorFree.endsWell
    rw [isRefused] at endsWell
    cases endsWell

namespace Query

/-- A query weighs no more than any text that is read as the query. -/
theorem weight_le_of_parseWithin {limits : Limits} {source : String} {query : Query}
    (reads : parseWithin limits source = .ok query)
    (scale : Scale) :
    scale.query query ≤
      scale.total .awaiting ((TokenStream.ofSource source none).tokens.map Token.mark) := by
  obtain ⟨isErrorFree, phrase⟩ := TokenStream.phrase_of_query_ofSource reads
  rw [← TokenStream.ofSource_eq_of_isErrorFree isErrorFree]
  exact phrase.query_le scale .awaiting

/--
Parentheses stand where they are needed and nowhere else.  In the canonical text of a query
that is read back they belong to calls, lists and operands only.  Without the pair around
an operand the text is read as no query that agrees with this one, if it is read at all.
-/
theorem parseWithin_without_parentheses
    {limits : Limits} {query : Query}
    (reads : parseWithin limits query.text = .ok query) :
    AllOpen query.HasOperand [] query.pieces ∧
      ∀ operand : Operand, query.HasOperand operand → operand.inParentheses = true →
        query.text =
            textOf operand.front ++ "(" ++ operand.expression.text ++ ")" ++
              textOf operand.back ∧
          ∀ (other : Limits) (result : Query),
            parseWithin other
                (textOf operand.front ++ operand.expression.text ++ textOf operand.back) =
              .ok result →
            result ≠ query ∧ query.agrees result = false := by
  obtain ⟨_, phrase⟩ := TokenStream.phrase_of_query_ofSource reads
  have isWellFormed := phrase.isWellFormed fun token isIn => TokenStream.isProper_ofSource isIn
  refine ⟨isWellFormed.allOpen, fun operand has isWrapped => ⟨?_, ?_⟩⟩
  · rw [text, has.pieces_eq]
    exact operand.textOf_pieces isWrapped
  · intro other result resultReads
    rw [operand.textOf_barePieces] at resultReads
    obtain ⟨scale, isLighter⟩ :=
      Operand.exists_scale (has.isWellFormed isWellFormed) (has.approaches isWellFormed)
        has.startsApart (has.pieces_eq ▸ isWellFormed.areLegible_pieces) isWrapped
    rw [← has.pieces_eq, total_pieces isWellFormed] at isLighter
    have weight_lt : scale.query result < scale.query query :=
      Nat.lt_of_le_of_lt (weight_le_of_parseWithin resultReads scale) isLighter
    constructor
    · rintro rfl
      exact Nat.lt_irrefl _ weight_lt
    · refine Bool.eq_false_iff.mpr fun agrees => Nat.ne_of_gt weight_lt ?_
      exact scale.query_eq_of_agrees isWellFormed agrees

/-- A condition that needs its parentheses. -/
def grouped : Query where
  select := [⟨"count", [.wildcard], none⟩]
  sources := ["sale"]
  condition :=
    some
      (.binary (.logical .and)
        (.binary (.logical .or) (.field "a") (.field "b"))
        (.unary .not (.field "c")))

/-- The disjunction in that condition, with what is around it. -/
def groupedOperand : Operand :=
  (⟨[], true, .binary (.logical .or) (.field "a") (.field "b"),
      [.space, .keyword .andWord, .space, .keyword .notWord, .space, .name "c"]⟩ : Operand).within
    grouped.piecesBeforeCondition grouped.piecesBehindCondition

theorem parseWithin_without_parentheses_grouped :
    parse grouped.text = .ok grouped ∧
      grouped.text = "SELECT count(*) FROM sale WHERE (a OR b) AND NOT c" ∧
      ∀ result : Query,
        parse "SELECT count(*) FROM sale WHERE a OR b AND NOT c" = .ok result →
          grouped.agrees result = false := by
  have isCanonical :
      grouped.text = "SELECT count(*) FROM sale WHERE (a OR b) AND NOT c" := by
    cbv
  have reads : parseWithin {} grouped.text = .ok grouped := by
    rw [isCanonical]
    cbv
  have has : grouped.HasOperand groupedOperand := .condition rfl (.left _ _ _)
  obtain ⟨_, areNeeded⟩ := parseWithin_without_parentheses reads
  have isDifferent := (areNeeded groupedOperand has rfl).2 {}
  have isText :
      textOf groupedOperand.front ++ groupedOperand.expression.text ++
          textOf groupedOperand.back =
        "SELECT count(*) FROM sale WHERE a OR b AND NOT c" := by
    cbv
  rw [isText] at isDifferent
  exact ⟨reads, isCanonical, fun result resultReads => (isDifferent result resultReads).2⟩

end Query

end EventQuery
