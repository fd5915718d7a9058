import EventQuery.Proofs.Grammar.ClauseOrder
import EventQuery.Proofs.Grammar.WellFormed

/-!
# Ways down a tree

The limit on nesting concerns every way from the root of a tree to a leaf on its own:
on none of them are there more calls and prefix operators than the limit.  There may
be fewer, since groups and minus signs in front of numbers are counted while they
are read and leave nothing in the tree.
-/

namespace EventQuery

/-! ## Ways down a tree -/

namespace Expression

/-- The expressions directly below an expression. -/
def children : Expression → List Expression
  | call _ arguments => arguments
  | binary _ left right => [left, right]
  | unary _ operand => [operand]
  | _ => []

/-- Whether an expression is a call or a prefix operator. -/
def deepens : Expression → Bool
  | call _ _ => true
  | unary _ _ => true
  | _ => false

/-- The expressions on a way from the root of a tree to one of its leaves. -/
inductive Path : Expression → List Expression → Prop where
  | leaf {expression : Expression}
      (isLeaf : expression.children = []) :
      Path expression [expression]
  | down {expression child : Expression} {path : List Expression}
      (isChild : child ∈ expression.children)
      (below : Path child path) :
      Path expression (expression :: path)

/-- No way down a tree meets more calls and prefix operators than a bound. -/
def IsWithin (bound : Nat) (expression : Expression) : Prop :=
  ∀ path, expression.Path path → path.countP deepens ≤ bound

theorem IsWithin.mono {bound wider : Nat} {expression : Expression}
    (isWithin : expression.IsWithin bound)
    (isWider : bound ≤ wider) :
    expression.IsWithin wider :=
  fun path isPath => Nat.le_trans (isWithin path isPath) isWider

/-- An expression that does not deepen has the bound of what is below it. -/
theorem isWithin_of_children {bound : Nat} {expression : Expression}
    (isPlain : expression.deepens = false)
    (areWithin : ∀ child ∈ expression.children, child.IsWithin bound) :
    expression.IsWithin bound := by
  intro path isPath
  cases isPath with
  | leaf isLeaf => simp [isPlain]
  | down isChild below =>
      rw [List.countP_cons, isPlain]
      exact areWithin _ isChild _ below

/-- A call or a prefix operator adds one to what is below it. -/
theorem isWithin_succ_of_children {bound : Nat} {expression : Expression}
    (areWithin : ∀ child ∈ expression.children, child.IsWithin bound) :
    expression.IsWithin (bound + 1) := by
  have isOne (rest : Nat) : rest + (if expression.deepens = true then 1 else 0) ≤ rest + 1 := by
    split <;> omega
  intro path isPath
  cases isPath with
  | leaf isLeaf =>
      rw [List.countP_cons, List.countP_nil]
      exact Nat.le_trans (isOne 0) (Nat.succ_le_succ (Nat.zero_le bound))
  | down isChild below =>
      rw [List.countP_cons]
      exact Nat.le_trans (isOne _) (Nat.succ_le_succ (areWithin _ isChild _ below))

end Expression

namespace Grammar

open Expression

theorem TestPhrase.isWithin {nesting : Nat} {name : String} {tokens : List Token}
    {expression : Expression}
    (test : TestPhrase name tokens expression) :
    expression.IsWithin nesting := by
  cases test with
  | membership => exact isWithin_of_children rfl nofun
  | pattern => exact isWithin_of_children rfl nofun

theorem isWithin_binary {nesting : Nat} {operator : BinaryOperator} {left right : Expression}
    (leftIsWithin : left.IsWithin nesting)
    (rightIsWithin : right.IsWithin nesting) :
    (binary operator left right).IsWithin nesting :=
  isWithin_of_children rfl
    (List.forall_mem_cons.mpr ⟨leftIsWithin, List.forall_mem_cons.mpr ⟨rightIsWithin, nofun⟩⟩)

theorem isWithin_unary {nesting : Nat} {operator : UnaryOperator} {operand : Expression}
    (isWithin : operand.IsWithin nesting) :
    (unary operator operand).IsWithin (nesting + 1) :=
  isWithin_succ_of_children (List.forall_mem_cons.mpr ⟨isWithin, nofun⟩)

mutual

/-- Groups and folded signs take from the nesting of a phrase and leave nothing behind. -/
theorem Phrase.isWithin {nesting : Nat} {level : Level}
    {tokens : List Token} {expression : Expression} :
    Phrase nesting level tokens expression → expression.IsWithin nesting
  | .loosen inner => inner.isWithin
  | .star _ => isWithin_of_children rfl nofun
  | .connected leftPhrase _ rightPhrase =>
      isWithin_binary leftPhrase.isWithin rightPhrase.isWithin
  | .negation _ inner => isWithin_unary inner.isWithin
  | .compared leftPhrase _ rightPhrase =>
      isWithin_binary leftPhrase.isWithin rightPhrase.isWithin
  | .tested _ test => test.isWithin
  | .computed leftPhrase _ rightPhrase =>
      isWithin_binary leftPhrase.isWithin rightPhrase.isWithin
  | .opposite _ _ _ => isWithin_of_children rfl nofun
  | .minus _ inner _ => isWithin_unary inner.isWithin
  | .number _ => isWithin_of_children rfl nofun
  | .string _ => isWithin_of_children rfl nofun
  | .boolean _ => isWithin_of_children rfl nofun
  | .field _ _ => isWithin_of_children rfl nofun
  | .emptyCall _ _ _ _ => isWithin_succ_of_children nofun
  | .call _ _ _ inner _ => isWithin_succ_of_children inner.areWithin
  | .group _ inner _ => inner.isWithin.mono (Nat.le_succ _)

theorem Arguments.areWithin {nesting : Nat}
    {tokens : List Token} {values : List Expression} :
    Arguments nesting tokens values → ∀ value ∈ values, value.IsWithin nesting
  | .last item => List.forall_mem_cons.mpr ⟨item.isWithin, nofun⟩
  | .more item _ rest => List.forall_mem_cons.mpr ⟨item.isWithin, rest.areWithin⟩

end

/-! ## Ways down a query -/

theorem ColumnPhrase.isWithin {nesting : Nat} {tokens : List Token} {item : SelectItem}
    (column : ColumnPhrase nesting tokens item) :
    item.expression.IsWithin nesting := by
  cases column with
  | unnamed phrase arithmetic computes =>
      rw [SelectItem.expression_eq_of_computes arithmetic computes]
      exact phrase.isWithin
  | named phrase arithmetic computes _ _ =>
      rw [SelectItem.expression_eq_of_computes arithmetic computes]
      exact phrase.isWithin

end Grammar

/-- No way down a column or the condition of a query meets more than a bound. -/
structure Query.IsWithin (bound : Nat) (query : Query) : Prop where
  columns : ∀ item ∈ query.select, item.expression.IsWithin bound
  condition : ∀ condition ∈ query.condition, condition.IsWithin bound

namespace Grammar

variable {setting : Setting}

theorem isWithin_of_gives_expression {context : Context} {place behind : Cursor}
    {value : Expression}
    (gives : Gives (expression setting context place) value behind) :
    value.IsWithin setting.maxDepth := by
  obtain ⟨⟨_, _, phrase⟩, _⟩ := reads_of_gives_expression gives
  exact phrase.isWithin.mono (Nat.sub_le _ _)

theorem forall_mem_of_separated {α : Type} {Holds : α → Prop} {tokens : List Token}
    {values : List α}
    (separated : Separated (fun _ value => Holds value) tokens values) :
    ∀ value ∈ values, Holds value := by
  induction separated with
  | last item => exact List.forall_mem_cons.mpr ⟨item, nofun⟩
  | more item _ _ hypothesis => exact List.forall_mem_cons.mpr ⟨item, hypothesis⟩

theorem isWithin_of_gives_selectList {place behind : Cursor} {items : List SelectItem}
    (gives : Gives (selectList setting place) items behind) :
    ∀ item ∈ items, item.expression.IsWithin setting.maxDepth := by
  have areColumns {cursor after : Cursor} {item : SelectItem}
      (_ : cursor.depth = place.depth)
      (itemGives : Gives (selectItem setting cursor) item after) :
      ∃ used, cursor = after.preceded used ∧
        item.expression.IsWithin setting.maxDepth := by
    obtain ⟨used, isBehind, column⟩ := columnPhrase_of_gives_selectItem itemGives
    exact ⟨used, isBehind, column.isWithin.mono (Nat.sub_le _ _)⟩
  obtain ⟨_, _, separated⟩ := separated_of_gives_commaSeparated areColumns rfl gives
  exact forall_mem_of_separated separated

/-- The body of a clause keeps to the limit what it adds to a query. -/
theorem isWithin_of_gives_clauseBody {clause : Clause} {before middle : Query}
    {place behind : Cursor}
    (body : Gives (clauseBody setting clause before place) middle behind)
    (isWithin : before.IsWithin setting.maxDepth) :
    middle.IsWithin setting.maxDepth := by
  obtain ⟨columns, condition⟩ := isWithin
  cases clause with
  | condition =>
      obtain ⟨value, gives, rfl⟩ := gives_bind_map_iff.mp body
      refine ⟨columns, ?_⟩
      rintro _ ⟨⟩
      exact isWithin_of_gives_expression gives
  | select =>
      obtain ⟨value, gives, rfl⟩ := gives_bind_map_iff.mp body
      exact ⟨isWithin_of_gives_selectList gives, condition⟩
  | compareWith =>
      obtain ⟨_, _, value, _, _, _, rfl⟩ := gives_compareWith_iff.mp body
      exact ⟨columns, condition⟩
  | _ =>
      obtain ⟨value, _, rfl⟩ := gives_bind_map_iff.mp body
      exact ⟨columns, condition⟩

theorem Boundary.isWithin {start place : Cursor} {clauses : List Clause} {before : Query}
    (boundary : Boundary setting start clauses before place) :
    before.IsWithin setting.maxDepth := by
  induction boundary with
  | sources _ _ columns _ _ => exact ⟨isWithin_of_gives_selectList columns, nofun⟩
  | clause _ _ _ body hypothesis => exact isWithin_of_gives_clauseBody body hypothesis

end Grammar

end EventQuery
