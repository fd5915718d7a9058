import EventQuery.Proofs.Grammar.Paths
import EventQuery.Proofs.Grammar.Siblings
import EventQuery.Proofs.Steps.OnePass

/-!
# The depth of nesting

Readers count how deeply they are nested in groups, calls and prefix operators.  The
count never exceeds its limit, and whoever reads an expression leaves it as it was.
So no way down an accepted tree meets more calls and prefix operators than the limit,
and what stands side by side is accepted in any number.
-/

namespace EventQuery

namespace Grammar

variable {setting : Setting}

/-! ## The count of nesting -/

/-- A reader that follows its log stops at the depth where it started. -/
theorem Tracks.depth_eq {α : Type} {bound floor depth exit : Nat} {tokens : List Token}
    {run : Logged (Parsed α bound)} {outcome : Outcome α bound} {value : α} {after : Cursor}
    (tracks : Tracks setting floor tokens run outcome (Arrives depth exit))
    (gives : Gives outcome value after) :
    after.depth = depth := by
  obtain ⟨_, isOk⟩ := gives
  obtain ⟨_, _, _, _, arrives⟩ := tracks
  exact (arrives _ isOk).depth

/--
A production of the grammar of expressions gives something: from the first place to
the second one.
-/
inductive Produces (setting : Setting) : Cursor → Cursor → Prop where
  | expression {context : Context} {place after : Cursor} {value : Expression}
      (gives : Gives (expression setting context place) value after) :
      Produces setting place after
  | conjunction {context : Context} {place after : Cursor} {value : Expression}
      (gives :
        Gives (chain setting .and context (negation setting context) place
          (nestedFrom setting place)) value after) :
      Produces setting place after
  | negation {context : Context} {place after : Cursor} {value : Expression}
      (gives :
        Gives (negation setting context place (nestedFrom setting place)) value after) :
      Produces setting place after
  | comparison {context : Context} {place after : Cursor} {value : Expression}
      (gives :
        Gives (comparison setting context place (nestedFrom setting place)) value after) :
      Produces setting place after
  | climb {least : Nat} {context : Context} {place after : Cursor} {value : Expression}
      (climbs : Climbs setting least context place value after) :
      Produces setting place after
  | signed {context : Context} {place after : Cursor} {value : Expression}
      (gives : Gives (signed setting context place (nestedFrom setting place)) value after) :
      Produces setting place after
  | primary {context : Context} {place after : Cursor} {value : Expression}
      (gives : Gives (primary setting context place (nestedFrom setting place)) value after) :
      Produces setting place after
  | arguments {place after : Cursor} {values : List Expression}
      (gives :
        Gives (arguments setting place (nestedExpression setting (place.size + 1))) values
          after) :
      Produces setting place after
  | argument {place after : Cursor} {value : Expression}
      (gives :
        Gives (argument setting place (nestedExpression setting (place.size + 1))) value
          after) :
      Produces setting place after
  | literalList {place after : Cursor} {values : List Literal}
      (gives : Gives (literalList setting place) values after) :
      Produces setting place after
  | literal {place after : Cursor} {value : Literal}
      (gives : Gives (literal setting place) value after) :
      Produces setting place after

/-- Every production leaves the count of nesting as it was. -/
theorem Produces.depth_eq {place after : Cursor}
    (produces : Produces setting place after)
    (isShallow : place.depth ≤ setting.maxDepth) :
    after.depth = place.depth := by
  have nested (bound : Nat) :
      NestedFollows setting (Logged.nestedExpression setting bound)
        (nestedExpression setting bound) :=
    nestedFollows_expression bound
  cases produces with
  | expression gives =>
      exact (follows_expression _ place (Nat.zero_le _) isShallow).depth_eq gives
  | conjunction gives =>
      exact (follows_conjunction _ _ _ _ _ (nested _) (Nat.zero_le _) isShallow).depth_eq gives
  | negation gives =>
      exact
        (follows_negation _ place.tokens place.depth (nested _) (Nat.zero_le _)
          isShallow).depth_eq gives
  | comparison gives =>
      exact (follows_comparison _ _ _ _ _ (nested _) (Nat.zero_le _) isShallow).depth_eq gives
  | climb climbs =>
      obtain ⟨first, ⟨rest, depth⟩, firstGives, restGives⟩ := climbs
      have isFirst :=
        (follows_signed _ place.tokens place.depth (nested _) (Nat.zero_le _)
          isShallow).depth_eq firstGives
      dsimp only at isFirst
      subst isFirst
      exact
        (follows_arithmeticAfter _ first (nested (Cursor.size ⟨rest, place.depth⟩))
          (Nat.zero_le _) isShallow).depth_eq restGives
  | signed gives =>
      exact
        (follows_signed _ place.tokens place.depth (nested _) (Nat.zero_le _)
          isShallow).depth_eq gives
  | primary gives =>
      exact (follows_primary _ _ _ _ _ (nested _) (Nat.zero_le _) isShallow).depth_eq gives
  | arguments gives =>
      exact
        (follows_arguments place.tokens place.depth (nested _) (Nat.zero_le _)
          isShallow).depth_eq gives
  | argument gives =>
      exact (follows_argument (nested _) (Nat.zero_le _) isShallow).depth_eq gives
  | literalList gives =>
      exact (follows_literalList (Nat.zero_le _) isShallow).depth_eq gives
  | literal gives => exact (follows_literal (Nat.zero_le _) isShallow).depth_eq gives

end Grammar

open Grammar

/-- How nesting is counted while a query is read, and what its limit means. -/
structure CountsNesting (stream : TokenStream) (maxDepth : Nat) : Prop where
  /-- Nothing begins at a place that is deeper than the limit. -/
  isBounded :
    (stream.queryLogged maxDepth).outcome = stream.query maxDepth ∧
      ∀ stage place, (stage, place) ∈ begun (stream.queryLogged maxDepth).log →
        place.depth ≤ maxDepth
  /-- A production that gives something leaves the count as it was. -/
  isBalanced :
    ∀ place after, place.depth ≤ maxDepth →
      Produces ⟨stream.ending, maxDepth⟩ place after → after.depth = place.depth
  /-- Any number of operands are nested no deeper than the deepest one. -/
  joinsSiblings :
    ∀ (nesting : Nat) (operator : BinaryOperator) (sign : Token)
      (operand : List Token × Expression) (others : List (List Token × Expression)),
      sign.content = operatorContent operator → operator.isComparison = false →
        (∀ sibling ∈ operand :: others,
          Phrase nesting operator.rightLevel sibling.1 sibling.2) →
          Phrase nesting operator.leftLevel (joinTokens sign operand.1 others)
            (joinExpressions operator operand.2 others)
  /-- A call is one level deeper than its deepest argument. -/
  joinsArguments :
    ∀ (nesting : Nat) (name opening closing : Token) (function : String)
      (tokens : List Token) (values : List Expression),
      name.boolean? = none → name.name? = some function →
        opening.content = .leftParenthesis → closing.content = .rightParenthesis →
          Separated (Phrase nesting .argument) tokens values →
            Phrase (nesting + 1) .primary (name :: opening :: (tokens ++ [closing]))
              (.call function values)
  /-- Any number of columns and conditions within the limit are accepted together. -/
  acceptsSiblings :
    stream.IsErrorFree → ∀ query, SiblingsPhrase maxDepth stream.tokens query →
      stream.query maxDepth = .ok query
  /-- No way down an accepted query meets more calls and prefix operators than the limit. -/
  boundsTrees : ∀ query, stream.query maxDepth = .ok query → query.IsWithin maxDepth

/-- Nesting is counted exactly, and its limit bounds every way down a tree. -/
theorem TokenStream.countsNesting (stream : TokenStream) (maxDepth : Nat) :
    CountsNesting stream maxDepth where
  isBounded := by
    obtain ⟨isSame, _, _, walk, _⟩ :=
      runsAlong_query ⟨stream.ending, maxDepth⟩ stream.tokens
    exact ⟨isSame, fun stage place isIn => (walk.place_of_mem_begun isIn).1⟩
  isBalanced := fun _ _ isShallow produces => produces.depth_eq isShallow
  joinsSiblings := by
    intro nesting operator sign operand others isSign chains arePhrases
    obtain ⟨firstPhrase, othersArePhrases⟩ := List.forall_mem_cons.mp arePhrases
    exact phrase_of_joined isSign chains firstPhrase.ofRightLevel others othersArePhrases
  joinsArguments := fun _ _ _ _ _ _ _ isNoBoolean means opens closes arguments =>
    phrase_of_call_of_separated isNoBoolean means opens arguments closes
  acceptsSiblings := fun isErrorFree _ siblings =>
    (query_eq_ok_iff isErrorFree).mpr siblings.queryPhrase
  boundsTrees := by
    intro query reads
    obtain ⟨_, _, _, boundary, _⟩ := exists_boundary_of_query reads
    exact boundary.isWithin

end EventQuery
