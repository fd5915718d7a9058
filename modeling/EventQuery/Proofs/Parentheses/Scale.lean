import EventQuery.Canonical.Query
import EventQuery.Proofs.Query.WellFormed
import EventQuery.Token

/-!
# What a query weighs

Texts of one query differ in their parentheses and signs.  A scale gives a weight to
every opening parenthesis and the same weight to every minus sign right behind another
one that is a prefix, since that is the other way to write the opposite of an opposite.
It may give weights to names too.  Whether a minus sign is a prefix shows on what stands
in front of it, so a text is weighed from left to right.

A query has a weight of its own: what its canonical text should weigh.
-/

namespace EventQuery

/-- What a token or a piece is on a scale. -/
inductive Mark where
  | opening
  | minus
  | name (name : String)
  /-- The end of any other operand: a constant, or a closing parenthesis. -/
  | operand
  | other

/-- What has been weighed last. -/
inductive Mood where
  /-- An operand has ended, so that a minus sign stands between two operands. -/
  | ended
  /-- An operand is yet to come. -/
  | awaiting
  /-- An operand is yet to come, right behind its minus sign. -/
  | signed
deriving DecidableEq

namespace Mood

/-- What has been weighed last once a mark is. -/
def after : Mood → Mark → Mood
  | ended, .minus => awaiting
  | _, .minus => signed
  | _, .name _ => ended
  | _, .operand => ended
  | _, .opening => awaiting
  | _, .other => awaiting

@[simp]
theorem after_name (mood : Mood) (name : String) : mood.after (.name name) = ended := by
  cases mood <;> rfl

@[simp]
theorem after_operand (mood : Mood) : mood.after .operand = ended := by
  cases mood <;> rfl

@[simp]
theorem after_opening (mood : Mood) : mood.after .opening = awaiting := by
  cases mood <;> rfl

@[simp]
theorem after_other (mood : Mood) : mood.after .other = awaiting := by
  cases mood <;> rfl

/-- What has been weighed last once all of some marks are. -/
def through (mood : Mood) (marks : List Mark) : Mood :=
  marks.foldl after mood

@[simp]
theorem through_nil (mood : Mood) : mood.through [] = mood :=
  rfl

@[simp]
theorem through_cons (mood : Mood) (mark : Mark) (marks : List Mark) :
    mood.through (mark :: marks) = (mood.after mark).through marks :=
  rfl

@[simp]
theorem through_append (mood : Mood) (first second : List Mark) :
    mood.through (first ++ second) = (mood.through first).through second :=
  List.foldl_append

end Mood

/-- Whether an operand is yet to come behind a mark, whatever stands in front of it. -/
def Mark.awaits : Mark → Bool
  | opening => true
  | minus => true
  | other => true
  | _ => false

theorem Mark.after_ne_ended {mark : Mark} (awaits : mark.awaits = true) (mood : Mood) :
    mood.after mark ≠ .ended := by
  cases mood <;> cases mark <;> simp_all [Mark.awaits, Mood.after]

/-- The mark of a token. -/
def Token.mark (token : Token) : Mark :=
  match token.name?, token.content with
  | some name, _ => .name name
  | none, .leftParenthesis => .opening
  | none, .arithmetic .subtract => .minus
  | none, .number _ => .operand
  | none, .string _ => .operand
  | none, .rightParenthesis => .operand
  | none, _ => .other

/-- The mark of a piece, if it has one. -/
def Piece.mark? : Piece → Option Mark
  | space => none
  | leftParenthesis => some .opening
  | arithmetic .subtract => some .minus
  | name value => some (.name value)
  | keyword word => some (if word.isReserved then .other else .operand)
  | timeUnit _ _ => some .operand
  | string _ => some .operand
  | boolean _ => some .operand
  | whole _ => some .operand
  | decimal _ => some .operand
  | rightParenthesis => some .operand
  | arithmetic _ => some .other
  | comparison _ => some .other
  | comma => some .other

/-- The marks of a row of pieces. -/
def Piece.marks (pieces : List Piece) : List Mark :=
  pieces.filterMap Piece.mark?

/-- What an opening parenthesis and what each name weighs. -/
structure Scale where
  opening : Nat
  name : String → Nat

namespace Scale

variable (scale : Scale)

/-- What a mark weighs behind others. -/
def weight : Mood → Mark → Nat
  | _, .opening => scale.opening
  | .signed, .minus => scale.opening
  | _, .name name => scale.name name
  | _, _ => 0

@[simp]
theorem weight_opening (mood : Mood) : scale.weight mood .opening = scale.opening := by
  cases mood <;> rfl

@[simp]
theorem weight_name (mood : Mood) (name : String) :
    scale.weight mood (.name name) = scale.name name := by
  cases mood <;> rfl

@[simp]
theorem weight_operand (mood : Mood) : scale.weight mood .operand = 0 := by
  cases mood <;> rfl

@[simp]
theorem weight_other (mood : Mood) : scale.weight mood .other = 0 := by
  cases mood <;> rfl

/-- What some marks weigh behind others. -/
def total : Mood → List Mark → Nat
  | _, [] => 0
  | mood, mark :: marks => scale.weight mood mark + total (mood.after mark) marks

@[simp]
theorem total_nil (mood : Mood) : scale.total mood [] = 0 :=
  rfl

@[simp]
theorem total_cons (mood : Mood) (mark : Mark) (marks : List Mark) :
    scale.total mood (mark :: marks) =
      scale.weight mood mark + scale.total (mood.after mark) marks :=
  rfl

@[simp]
theorem total_append (mood : Mood) (first second : List Mark) :
    scale.total mood (first ++ second) =
      scale.total mood first + scale.total (mood.through first) second := by
  induction first generalizing mood with
  | nil => exact (Nat.zero_add _).symm
  | cons mark first ih =>
      rw [List.cons_append, total, total, ih, Nat.add_assoc]
      rfl

/-- A sign makes a difference only to another one right behind it. -/
theorem total_signed_of_head? {marks : List Mark} (isNoMinus : marks.head? ≠ some .minus) :
    scale.total .signed marks = scale.total .awaiting marks := by
  cases marks with
  | nil => rfl
  | cons mark marks =>
      cases mark
      case minus => exact absurd rfl isNoMinus
      all_goals rfl

/-- A weight, together with that of the parenthesis in front if there is one. -/
def grouped (inParentheses : Bool) (weight : Nat) : Nat :=
  if inParentheses then scale.opening + weight else weight

theorem le_grouped (inParentheses : Bool) (weight : Nat) :
    weight ≤ scale.grouped inParentheses weight := by
  unfold grouped
  split <;> omega

theorem grouped_le (inParentheses : Bool) (weight : Nat) :
    scale.grouped inParentheses weight ≤ scale.opening + weight := by
  unfold grouped
  split <;> omega

theorem grouped_mono {few more : Bool} (weight : Nat) (implies : few = true → more = true) :
    scale.grouped few weight ≤ scale.grouped more weight := by
  cases few with
  | false => exact scale.le_grouped _ _
  | true => exact implies rfl ▸ Nat.le_refl _

/-- What some things weigh together. -/
def together {α : Type} (weight : α → Nat) : List α → Nat
  | [] => 0
  | value :: values => weight value + together weight values

theorem together_map {α β : Type} (weight : β → Nat) (function : α → β) (values : List α) :
    together weight (values.map function) =
      together (fun value => weight (function value)) values := by
  induction values with
  | nil => rfl
  | cons value values ih => rw [List.map_cons, together, together, ih]

theorem together_zero {α : Type} (values : List α) : together (fun _ => 0) values = 0 := by
  induction values with
  | nil => rfl
  | cons value values ih => rw [together, ih]

/-- What some names weigh together. -/
def names (names : List String) : Nat :=
  together scale.name names

end Scale

/-! ## Weights of queries -/

/-- Whether an expression is a minus sign in front of another one. -/
def Expression.isOpposite : Expression → Bool
  | unary .negate _ => true
  | _ => false

namespace Scale

variable (scale : Scale)

mutual

/--
What an expression weighs.  A minus sign in front of a number is part of the number,
so only the opposite of an opposite needs parentheses that precedence does not demand.
-/
def expression : Expression → Nat
  | .literal _ => 0
  | .field name => scale.name name
  | .wildcard => 0
  | .call function arguments => scale.name function + (scale.opening + expressions arguments)
  | .binary operator left right =>
      scale.grouped (left.precedence < operator.leftDemand) (expression left) +
        scale.grouped (right.precedence < operator.rightDemand) (expression right)
  | .unary .not operand =>
      scale.grouped (operand.precedence < negationPrecedence) (expression operand)
  | .unary .negate operand =>
      scale.grouped (operand.isOpposite || operand.precedence < atomPrecedence)
        (expression operand)
  | .member name _ _ => scale.name name + scale.opening
  | .matching name _ _ => scale.name name

/-- What some expressions weigh together. -/
def expressions : List Expression → Nat
  | [] => 0
  | first :: others => expression first + expressions others

end

theorem expressions_eq_together (expressions : List Expression) :
    scale.expressions expressions = together scale.expression expressions := by
  induction expressions with
  | nil => rfl
  | cons first others ih => rw [Scale.expressions, ih, together]

/-- What a query weighs. -/
def query (query : Query) : Nat :=
  scale.expressions (query.select.map SelectItem.expression) +
    (scale.names query.sources +
      (scale.expressions query.condition.toList + together scale.names query.facet.toList))

end Scale

end EventQuery
