import EventQuery.Proofs.Grammar.OperandReading

/-!
# Precedence climbing reads two layers

Arithmetic is read by one loop that climbs along the precedences of the
operators it meets.  Written down as a grammar, arithmetic has two layers: sums
of products, and products of signed operands, each grouped to the left.  This
module gives readers for the two layers and shows that climbing gives the same
outcome from every place, be it a tree and the place behind it or an error.

Climbs are compared with layers from the tightest precedence on: beyond products
a climb reads a signed operand alone, at the precedence of products it reads a
product, and from the least one it reads a product and goes on with a sum.
-/

namespace EventQuery.Grammar

/-- The same reader for a place that is no earlier than the first one. -/
def Nested.onwardsTo {α : Type} {bound : Nat}
    (nested : Nested bound)
    (parsed : Parsed α (bound + 1)) :
    Nested parsed.cursor.size :=
  fun context cursor isLater =>
    nested context cursor
      (Nat.lt_of_lt_of_le isLater (Nat.le_of_lt_succ parsed.size_lt))

variable (setting : Setting)

/-- The operator of a sum that a token is. -/
def sumOperator? (token : Token) : Option Arithmetic :=
  match token.content with
  | .arithmetic .add => some .add
  | .arithmetic .subtract => some .subtract
  | _ => none

/-- The operator of a product that a token is. -/
def productOperator? (token : Token) : Option Arithmetic :=
  match token.content with
  | .arithmetic .multiply => some .multiply
  | .arithmetic .divide => some .divide
  | _ => none

/--
Goes on after a left operand while operators of one layer follow, and groups
the operands to the left.
-/
def layerAfter
    (operator? : Token → Option Arithmetic)
    (operand : Reader)
    (left : Expression)
    (cursor : Cursor)
    (nested : Nested cursor.size) :
    Outcome Expression (cursor.size + 1) := do
  match ← takeIf? setting cursor operator? with
  | none => pure (.unread left cursor)
  | some operator =>
      let later := nested.after operator
      let right ← operand operator.cursor later
      (operator.before
        (right.beforeRest
          (layerAfter operator? operand
            (.binary (.arithmetic operator.value) left right.value)
            right.cursor (later.after right)))).relaxed
termination_by cursor.size
decreasing_by
  exact Nat.lt_trans right.size_lt operator.size_lt

/-- One or more operands with operators of one layer between them. -/
def layer
    (operator? : Token → Option Arithmetic)
    (first operand : Reader) :
    Reader :=
  fun cursor nested => do
    let left ← first cursor nested
    left.beforeRest
      (layerAfter setting operator? operand left.value left.cursor (nested.after left))

/-- Signed operands with `*` and `/` between them. -/
def multiplicative (context : Context) : Reader :=
  layer setting productOperator? (signed setting context) (signed setting .value)

/-- Products with `+` and `-` between them. -/
def additive (context : Context) : Reader :=
  layer setting sumOperator? (multiplicative setting context) (multiplicative setting .value)

/-- A signed operand and the operators behind it that bind tightly enough. -/
def climb (least : Nat) (context : Context) : Reader :=
  fun cursor nested => do
    let first ← signed setting context cursor nested
    first.beforeRest
      (arithmeticAfter setting least first.value first.cursor (nested.after first))

variable {setting}

theorem operatorAtLeast?_six : operatorAtLeast? 6 = productOperator? := by
  funext token
  unfold operatorAtLeast? productOperator?
  cases token.content with
  | arithmetic operator => cases operator <;> rfl
  | _ => rfl

theorem operatorAtLeast?_seven (token : Token) : operatorAtLeast? 7 token = none := by
  unfold operatorAtLeast?
  cases token.content with
  | arithmetic operator => cases operator <;> rfl
  | _ => rfl

/-- An operator belongs to a product or to a sum. -/
theorem operatorAtLeast?_zero (token : Token) :
    operatorAtLeast? 0 token = (productOperator? token).or (sumOperator? token) := by
  unfold operatorAtLeast? productOperator? sumOperator?
  cases token.content with
  | arithmetic operator => cases operator <;> rfl
  | _ => rfl

theorem precedence_of_productOperator? {token : Token} {operator : Arithmetic}
    (isOperator : productOperator? token = some operator) :
    operator.precedence = 6 := by
  unfold productOperator? at isOperator
  split at isOperator <;> cases isOperator <;> rfl

theorem precedence_of_sumOperator? {token : Token} {operator : Arithmetic}
    (isOperator : sumOperator? token = some operator) :
    operator.precedence = 5 := by
  unfold sumOperator? at isOperator
  split at isOperator <;> cases isOperator <;> rfl

section Steps

variable {left : Expression} {cursor : Cursor} {nested : Nested cursor.size}
    {operator? : Token → Option Arithmetic} {operand : Reader} {least : Nat}

theorem arithmeticAfter_of_error {error : QueryError}
    (fails : takeIf? setting cursor (operatorAtLeast? least) = .error error) :
    arithmeticAfter setting least left cursor nested = .error error := by
  rw [arithmeticAfter, fails]
  rfl

theorem arithmeticAfter_of_declines
    (declines : Declines setting cursor (operatorAtLeast? least)) :
    arithmeticAfter setting least left cursor nested = .ok (.unread left cursor) := by
  rw [arithmeticAfter, declines]
  rfl

/-- Where an operator is passed over, its right operand is a climb of its own. -/
theorem arithmeticAfter_of_takes {operator : Parsed Arithmetic cursor.size}
    (takes : takeIf? setting cursor (operatorAtLeast? least) = .ok (some operator)) :
    arithmeticAfter setting least left cursor nested =
      climb setting (operator.value.precedence + 1) .value operator.cursor
          (nested.after operator) >>= fun right =>
        (operator.before
          (right.beforeRest
            (arithmeticAfter setting least
              (.binary (.arithmetic operator.value) left right.value)
              right.cursor ((nested.after operator).after right)))).relaxed := by
  rw [arithmeticAfter, takes, climb, bind_assoc]
  rfl

theorem layerAfter_of_error {error : QueryError}
    (fails : takeIf? setting cursor operator? = .error error) :
    layerAfter setting operator? operand left cursor nested = .error error := by
  rw [layerAfter, fails]
  rfl

theorem layerAfter_of_declines
    (declines : Declines setting cursor operator?) :
    layerAfter setting operator? operand left cursor nested = .ok (.unread left cursor) := by
  rw [layerAfter, declines]
  rfl

theorem layerAfter_of_takes {operator : Parsed Arithmetic cursor.size}
    (takes : takeIf? setting cursor operator? = .ok (some operator)) :
    layerAfter setting operator? operand left cursor nested =
      operand operator.cursor (nested.after operator) >>= fun right =>
        (operator.before
          (right.beforeRest
            (layerAfter setting operator? operand
              (.binary (.arithmetic operator.value) left right.value)
              right.cursor ((nested.after operator).after right)))).relaxed := by
  rw [layerAfter, takes]
  rfl

end Steps

/-- What is ahead: an error that every look gives, nothing that is accepted, or a token. -/
theorem fails_or_declines_or_preceded (setting : Setting) (cursor : Cursor) :
    (∃ error, ∀ accept : Token → Option Arithmetic,
        takeIf? setting cursor accept = .error error) ∨
      (∀ accept : Token → Option Arithmetic, Declines setting cursor accept) ∨
      ∃ (token : Token) (place : Cursor), cursor = place.preceded [token] := by
  rcases cursor.eq_end_or_preceded with isEnd | isPreceded
  · cases ends : setting.ending with
    | ok ending => exact Or.inr (Or.inl fun accept => declines_end setting ends isEnd)
    | error error =>
        refine Or.inl ⟨error, fun accept => ?_⟩
        obtain ⟨tokens, depth⟩ := cursor
        subst isEnd
        simp [takeIf?, ends]
  · exact Or.inr (Or.inr isPreceded)

/--
No operator binds tighter than those of products, so a climb for such operators
reads a signed operand and looks one token ahead; that makes no difference to
whoever looks ahead there next.
-/
theorem climb_seven_bind
    {β : Type} {bound : Nat} {context : Context}
    {cursor : Cursor} {nested : Nested cursor.size}
    {next : Parsed Expression cursor.size → Outcome β bound}
    (looksAhead :
      ∀ (operand : Parsed Expression cursor.size) (error : QueryError),
        (∀ accept : Token → Option Arithmetic,
          takeIf? setting operand.cursor accept = .error error) →
        next operand = .error error) :
    climb setting 7 context cursor nested >>= next =
      signed setting context cursor nested >>= next := by
  rw [climb, bind_assoc]
  refine bind_congr fun operand => ?_
  rcases fails_or_declines_or_preceded setting operand.cursor with
    ⟨error, fails⟩ | declines | ⟨token, place, isPreceded⟩
  · rw [arithmeticAfter_of_error (fails _), looksAhead operand error fails]
    rfl
  · rw [arithmeticAfter_of_declines (declines _)]
    rfl
  · have declines : Declines setting operand.cursor (operatorAtLeast? 7) := by
      rw [isPreceded, declines_preceded_iff]
      exact operatorAtLeast?_seven token
    rw [arithmeticAfter_of_declines declines]
    rfl

section Layers

variable {left : Expression} {cursor : Cursor} {nested : Nested cursor.size}

/-- Going on with operators of products alone is going on in the layer of products. -/
theorem arithmeticAfter_six :
    arithmeticAfter setting 6 left cursor nested =
      layerAfter setting productOperator? (signed setting .value) left cursor nested := by
  obtain ⟨size, isSize⟩ : ∃ size, cursor.size = size := ⟨_, rfl⟩
  induction size using Nat.strongRecOn generalizing left cursor with
  | _ size ih =>
      cases taken : takeIf? setting cursor productOperator? with
      | error error =>
          rw [layerAfter_of_error taken]
          rw [← operatorAtLeast?_six] at taken
          exact arithmeticAfter_of_error taken
      | ok found =>
          cases found with
          | none =>
              rw [layerAfter_of_declines taken]
              rw [← operatorAtLeast?_six] at taken
              exact arithmeticAfter_of_declines taken
          | some operator =>
              obtain ⟨token, _, isOperator⟩ := (takeIf?_eq_some_iff setting).mp taken
              rw [layerAfter_of_takes taken]
              rw [← operatorAtLeast?_six] at taken
              rw [arithmeticAfter_of_takes taken, precedence_of_productOperator? isOperator,
                climb_seven_bind]
              · refine bind_congr fun right => ?_
                have isLater : right.cursor.size < size :=
                  isSize ▸ Nat.lt_trans right.size_lt operator.size_lt
                rw [ih _ isLater rfl]
              · intro operand error fails
                rw [arithmeticAfter_of_error (fails _)]
                rfl

/-- A climb for the operators of products alone reads a product. -/
theorem climb_six (context : Context) :
    climb setting 6 context cursor nested = multiplicative setting context cursor nested := by
  unfold climb multiplicative layer
  exact bind_congr fun first => by rw [arithmeticAfter_six]

/-- Behind a layer no operator of the layer is ahead. -/
theorem declines_of_gives_layerAfter
    {operator? : Token → Option Arithmetic} {operand : Reader}
    {value : Expression} {after : Cursor}
    (gives :
      Gives (layerAfter setting operator? operand left cursor nested) value after) :
    Declines setting after operator? := by
  obtain ⟨size, isSize⟩ : ∃ size, cursor.size = size := ⟨_, rfl⟩
  induction size using Nat.strongRecOn generalizing left cursor with
  | _ size ih =>
      rw [layerAfter] at gives
      rcases (gives_bind_takeIf?_iff setting).mp gives with
        ⟨declines, gives⟩ | ⟨token, operator, place, isShorter, _, _, gives⟩
      · obtain ⟨_, rfl⟩ := gives_pure_iff.mp gives
        exact declines
      · obtain ⟨right, behind, rightShorter, _, gives⟩ := gives_bind_outcome_iff.mp gives
        have isLater : behind.size < size := isSize ▸ Nat.lt_trans rightShorter isShorter
        have restGives :=
          gives_beforeRest_iff.mp (gives_before_iff.mp (gives_relaxed_iff.mp gives))
        exact ih behind.size isLater restGives rfl

theorem declines_of_multiplicative {context : Context} {parsed : Parsed Expression cursor.size}
    (reads : multiplicative setting context cursor nested = .ok parsed) :
    Declines setting parsed.cursor productOperator? := by
  obtain ⟨first, place, _, _, gives⟩ := gives_bind_outcome_iff.mp (gives_of_eq_ok reads)
  exact declines_of_gives_layerAfter (gives_beforeRest_iff.mp gives)

theorem takeIf?_of_accepts {accept : Token → Option Arithmetic} {operator : Arithmetic}
    {token : Token} {place : Cursor}
    (accepts : accept token = some operator) :
    takeIf? setting (place.preceded [token]) accept =
      .ok (some ⟨operator, place, place.size_lt_size_preceded_singleton token⟩) := by
  rw [takeIf?_preceded, accepts]
  rfl

/-- What follows a product: operators of sums, and a product behind each. -/
def sumBehind (setting : Setting) (nested : Nested cursor.size)
    (factor : Parsed Expression (cursor.size + 1)) :
    Outcome Expression (cursor.size + 1) :=
  factor.beforeRest
    (layerAfter setting sumOperator? (multiplicative setting .value) factor.value factor.cursor
      (nested.onwardsTo factor))

theorem sumBehind_unread :
    sumBehind setting nested (.unread left cursor) =
      layerAfter setting sumOperator? (multiplicative setting .value) left cursor nested := by
  have widens (rest : Outcome Expression (cursor.size + 1)) :
      (Parsed.unread left cursor).beforeRest rest = rest := by
    cases rest <;> rfl
  exact widens _

/-- Behind an operator and its operand a sum goes on as it does from their start. -/
theorem relaxed_sumBehind
    {operator : Parsed Arithmetic cursor.size}
    {right : Parsed Expression operator.cursor.size}
    (outcome : Outcome Expression (right.cursor.size + 1)) :
    (operator.before
        (right.beforeRest
          (outcome >>= sumBehind setting ((nested.after operator).after right)))).relaxed =
      (operator.before (right.beforeRest outcome)).relaxed >>= sumBehind setting nested := by
  cases outcome with
  | error error => rfl
  | ok factor =>
      have isWithin : factor.cursor.size < cursor.size + 1 := by
        have := factor.size_lt
        have := right.size_lt
        have := operator.size_lt
        omega
      have widens (rest : Outcome Expression (factor.cursor.size + 1)) :
          (operator.before (right.beforeRest (factor.beforeRest rest))).relaxed =
            Parsed.beforeRest ⟨factor.value, factor.cursor, isWithin⟩ rest := by
        cases rest <;> rfl
      exact widens _

theorem bind_congr_of_eq_ok {α β : Type} {step : Except QueryError α}
    {first second : α → Except QueryError β}
    (equal : ∀ middle, step = .ok middle → first middle = second middle) :
    step >>= first = step >>= second := by
  cases step with
  | error error => rfl
  | ok middle => exact equal middle rfl

/--
Going on with all operators is going on with those of products, and behind the
product with those of sums.
-/
theorem arithmeticAfter_zero :
    arithmeticAfter setting 0 left cursor nested =
      layerAfter setting productOperator? (signed setting .value) left cursor nested >>=
        sumBehind setting nested := by
  obtain ⟨size, isSize⟩ : ∃ size, cursor.size = size := ⟨_, rfl⟩
  induction size using Nat.strongRecOn generalizing left cursor with
  | _ size ih =>
      rcases fails_or_declines_or_preceded setting cursor with
        ⟨error, fails⟩ | declines | ⟨token, place, rfl⟩
      · rw [arithmeticAfter_of_error (fails _), layerAfter_of_error (fails _)]
        rfl
      · rw [arithmeticAfter_of_declines (declines _), layerAfter_of_declines (declines _)]
        exact (sumBehind_unread.trans (layerAfter_of_declines (declines _))).symm
      · have isLater {right : Parsed Expression place.size} : right.cursor.size < size :=
          isSize ▸ Nat.lt_trans right.size_lt (place.size_lt_size_preceded_singleton token)
        cases isProduct : productOperator? token with
        | some operator =>
            have isAhead : operatorAtLeast? 0 token = some operator := by
              rw [operatorAtLeast?_zero, isProduct]
              rfl
            rw [arithmeticAfter_of_takes (takeIf?_of_accepts isAhead),
              layerAfter_of_takes (takeIf?_of_accepts isProduct), bind_assoc,
              precedence_of_productOperator? isProduct, climb_seven_bind]
            · refine bind_congr fun right => ?_
              rw [ih _ isLater rfl, relaxed_sumBehind]
            · intro operand error fails
              rw [arithmeticAfter_of_error (fails _)]
              rfl
        | none =>
            have declinesProduct : Declines setting (place.preceded [token]) productOperator? :=
              (declines_preceded_iff setting).mpr isProduct
            rw [layerAfter_of_declines declinesProduct]
            refine Eq.trans ?_ sumBehind_unread.symm
            cases isSum : sumOperator? token with
            | none =>
                have isNoOperator : operatorAtLeast? 0 token = none := by
                  rw [operatorAtLeast?_zero, isProduct, isSum]
                  rfl
                rw [arithmeticAfter_of_declines ((declines_preceded_iff setting).mpr isNoOperator),
                  layerAfter_of_declines ((declines_preceded_iff setting).mpr isSum)]
            | some operator =>
                have isAhead : operatorAtLeast? 0 token = some operator := by
                  rw [operatorAtLeast?_zero, isProduct, isSum]
                  rfl
                rw [arithmeticAfter_of_takes (takeIf?_of_accepts isAhead),
                  layerAfter_of_takes (takeIf?_of_accepts isSum),
                  precedence_of_sumOperator? isSum, climb_six]
                refine bind_congr_of_eq_ok fun right isRight => ?_
                rw [ih _ isLater rfl, layerAfter_of_declines (declines_of_multiplicative isRight)]
                exact
                  congrArg (fun rest => (Parsed.before _ (right.beforeRest rest)).relaxed)
                    sumBehind_unread

/--
Climbing along the precedences gives what the two layers give, from every place
and in every context: the same tree and the same place behind it, or the same error.
-/
theorem arithmetic_eq_additive (setting : Setting) (context : Context) (cursor : Cursor)
    (nested : Nested cursor.size) :
    arithmetic setting context cursor nested = additive setting context cursor nested := by
  unfold arithmetic additive multiplicative layer
  rw [bind_assoc]
  refine bind_congr fun first => ?_
  rw [arithmeticAfter_zero]
  cases layerAfter setting productOperator? (signed setting .value) first.value first.cursor
      (nested.after first) with
  | error error => rfl
  | ok factor =>
      have isWithin : factor.cursor.size < cursor.size :=
        Nat.lt_of_lt_of_le factor.size_lt first.size_lt
      have widens (rest : Outcome Expression (factor.cursor.size + 1)) :
          first.beforeRest (factor.beforeRest rest) =
            Parsed.beforeRest ⟨factor.value, factor.cursor, isWithin⟩ rest := by
        cases rest <;> rfl
      exact widens _

end Layers

end EventQuery.Grammar
