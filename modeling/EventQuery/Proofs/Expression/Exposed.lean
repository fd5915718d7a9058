import EventQuery.Proofs.Expression.Shape

/-!
# The parts of an expression that a condition exposes

A condition may open with a group, so the connectives and negations that a
context looks at are the ones that can be reached from the front: through both
operands of a connective, through the operand of a negation, and through the
left operand of a comparison or an arithmetic operator.  `joinsConditions`
computes in one pass what is said here of each of these parts on its own.
-/

namespace EventQuery.Expression

/-- A part of an expression that can be reached from its front. -/
inductive Exposes : Expression → Expression → Prop where
  | whole {part : Expression} : Exposes part part
  | connectedLeft {connective : Connective} {left right part : Expression}
      (inner : left.Exposes part) :
      Exposes (.binary (.logical connective) left right) part
  | connectedRight {connective : Connective} {left right part : Expression}
      (inner : right.Exposes part) :
      Exposes (.binary (.logical connective) left right) part
  | negated {operand part : Expression}
      (inner : operand.Exposes part) :
      Exposes (.unary .not operand) part
  | compared {operator : Comparison} {left right part : Expression}
      (inner : left.Exposes part) :
      Exposes (.binary (.comparison operator) left right) part
  | computed {operator : Arithmetic} {left right part : Expression}
      (inner : left.Exposes part) :
      Exposes (.binary (.arithmetic operator) left right) part

/-- Whether what a connective joins, or a negation negates, are conditions. -/
def TakesConditions : Expression → Prop
  | binary (.logical _) left right =>
      left.isCondition = true ∧ right.isCondition = true
  | unary .not operand => operand.isCondition = true
  | _ => True

theorem takesConditions_of_exposes {expression part : Expression}
    (joins : expression.joinsConditions = true)
    (exposes : expression.Exposes part) :
    part.TakesConditions := by
  induction exposes with
  | @whole part =>
      unfold TakesConditions
      split
      · simp only [joinsConditions, Bool.and_eq_true] at joins
        exact joins.1.1
      · simp only [joinsConditions, Bool.and_eq_true] at joins
        exact joins.1
      · trivial
  | connectedLeft _ ih =>
      simp only [joinsConditions, Bool.and_eq_true] at joins
      exact ih joins.1.2
  | connectedRight _ ih =>
      simp only [joinsConditions, Bool.and_eq_true] at joins
      exact ih joins.2
  | negated _ ih =>
      simp only [joinsConditions, Bool.and_eq_true] at joins
      exact ih joins.2
  | compared _ ih => exact ih joins
  | computed _ ih => exact ih joins

/-- Connectives and negations in front join conditions if each of them does. -/
theorem joinsConditions_iff {expression : Expression} :
    expression.joinsConditions = true ↔
      ∀ part : Expression, expression.Exposes part → part.TakesConditions := by
  refine ⟨fun joins part exposes => takesConditions_of_exposes joins exposes, ?_⟩
  intro all
  fun_induction joinsConditions expression with
  | case1 connective left right leftIh rightIh =>
      obtain ⟨leftHolds, rightHolds⟩ := all _ .whole
      have leftJoins := leftIh fun part exposes => all part (.connectedLeft exposes)
      have rightJoins := rightIh fun part exposes => all part (.connectedRight exposes)
      simp only [leftHolds, rightHolds, leftJoins, rightJoins, Bool.and_self]
  | case2 operator left right ih => exact ih fun part exposes => all part (.compared exposes)
  | case3 operator left right ih => exact ih fun part exposes => all part (.computed exposes)
  | case4 operand ih =>
      have holds : operand.isCondition = true := all _ .whole
      have joins := ih fun part exposes => all part (.negated exposes)
      simp only [holds, joins, Bool.and_self]
  | case5 => rfl

end EventQuery.Expression
