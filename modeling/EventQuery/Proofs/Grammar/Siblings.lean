import EventQuery.Proofs.Canonical.Nesting

/-!
# Siblings

Nesting is counted on the way down, not along the way.  However many operands an
operator joins, however many arguments a call has and however many columns a query
has, together they are nested no deeper than the deepest one of them.
-/

namespace EventQuery

namespace Grammar

/-- What the token of a binary operator says. -/
def operatorContent : BinaryOperator → TokenContent
  | .logical connective => .keyword (Level.connectiveKeyword connective)
  | .comparison comparison => .comparison comparison
  | .arithmetic operator => .arithmetic operator

/-- Some operands in a row, as tokens: each with the sign of the operator in front. -/
def joinTokens (sign : Token) (first : List Token)
    (others : List (List Token × Expression)) : List Token :=
  others.foldl (fun tokens operand => tokens ++ sign :: operand.1) first

/-- Some operands in a row, as an expression: joined from the left. -/
def joinExpressions (operator : BinaryOperator) (first : Expression)
    (others : List (List Token × Expression)) : Expression :=
  others.foldl (fun expression operand => .binary operator expression operand.2) first

section Joined

variable {nesting : Nat} {operator : BinaryOperator} {sign : Token}

/-- Operators other than comparisons take phrases of their own level on the left. -/
theorem phrase_of_joined {tokens : List Token} {first : Expression}
    (isSign : sign.content = operatorContent operator)
    (chains : operator.isComparison = false)
    (firstPhrase : Phrase nesting operator.leftLevel tokens first)
    (others : List (List Token × Expression))
    (arePhrases : ∀ operand ∈ others, Phrase nesting operator.rightLevel operand.1 operand.2) :
    Phrase nesting operator.leftLevel (joinTokens sign tokens others)
      (joinExpressions operator first others) := by
  induction others generalizing tokens first with
  | nil => exact firstPhrase
  | cons operand others hypothesis =>
      obtain ⟨isPhrase, others⟩ := List.forall_mem_cons.mp arePhrases
      refine hypothesis ?_ others
      cases operator with
      | logical connective => exact .connected firstPhrase isSign isPhrase
      | comparison comparison => cases chains
      | arithmetic operator => exact .computed firstPhrase isSign isPhrase

/-- An operand of a binary operator may stand alone in its place. -/
theorem Phrase.ofRightLevel {tokens : List Token} {expression : Expression}
    (phrase : Phrase nesting operator.rightLevel tokens expression) :
    Phrase nesting operator.leftLevel tokens expression := by
  cases operator with
  | logical connective => exact .loosen phrase
  | comparison comparison => exact phrase
  | arithmetic operator => exact .loosen phrase

/-- Connected conditions are a condition. -/
theorem isCondition_joinExpressions (connective : Connective) {first : Expression}
    (firstIsCondition : first.isCondition = true ∧ first.joinsConditions = true)
    (others : List (List Token × Expression))
    (areConditions : ∀ operand ∈ others,
      operand.2.isCondition = true ∧ operand.2.joinsConditions = true) :
    (joinExpressions (.logical connective) first others).isCondition = true ∧
      (joinExpressions (.logical connective) first others).joinsConditions = true := by
  induction others generalizing first with
  | nil => exact firstIsCondition
  | cons operand others hypothesis =>
      obtain ⟨isCondition, others⟩ := List.forall_mem_cons.mp areConditions
      refine hypothesis ?_ others
      simp [Expression.isCondition, Expression.joinsConditions, firstIsCondition.1,
        firstIsCondition.2, isCondition.1, isCondition.2]

end Joined

/-- A call with any number of arguments is one level deeper than the arguments. -/
theorem phrase_of_call_of_separated {nesting : Nat} {name opening closing : Token}
    {function : String} {tokens : List Token} {values : List Expression}
    (isNoBoolean : name.boolean? = none)
    (means : name.name? = some function)
    (opens : opening.content = .leftParenthesis)
    (arguments : Separated (Phrase nesting .argument) tokens values)
    (closes : closing.content = .rightParenthesis) :
    Phrase (nesting + 1) .primary (name :: opening :: (tokens ++ [closing]))
      (.call function values) :=
  .call isNoBoolean means opens (arguments_of_separated arguments) closes

/--
The tokens of a query with any number of columns, sources and connected conditions,
each of them nested no deeper than is allowed.
-/
inductive SiblingsPhrase (nesting : Nat) : List Token → Query → Prop where
  | query {selectWord fromWord whereWord sign : Token} {connective : Connective}
      {columnTokens sourceTokens firstTokens : List Token}
      {columns : List SelectItem} {sources : List String} {first : Expression}
      {others : List (List Token × Expression)}
      (isSelect : selectWord.content = .keyword .selectWord)
      (columnPhrases : Separated (ColumnPhrase nesting) columnTokens columns)
      (isFrom : fromWord.content = .keyword .fromWord)
      (sourcePhrases : Separated NamePhrase sourceTokens sources)
      (isWhere : whereWord.content = .keyword .whereWord)
      (isSign : sign.content = .keyword (Level.connectiveKeyword connective))
      (arePhrases : ∀ operand ∈ (firstTokens, first) :: others,
        Phrase nesting (Level.ofConnective connective).tighter operand.1 operand.2)
      (areConditions : ∀ operand ∈ (firstTokens, first) :: others,
        operand.2.isCondition = true ∧ operand.2.joinsConditions = true) :
      SiblingsPhrase nesting
        (selectWord :: (columnTokens ++ fromWord :: (sourceTokens ++
          whereWord :: joinTokens sign firstTokens others)))
        { select := columns
          sources := sources
          condition := some (joinExpressions (.logical connective) first others) }

/-- A condition may be the only optional clause. -/
theorem clausePhrases_condition {nesting : Nat} (columns : List SelectItem)
    (sources : List String) {tokens : List Token} {condition : Option Expression}
    (clause : OptionalPhrase [.whereWord] (ConditionPhrase nesting) tokens condition) :
    ClausePhrases nesting { select := columns, sources := sources, condition := condition }
      tokens := by
  have clauses :
      ClausePhrases nesting
        { select := columns, sources := sources, condition := condition }
        (tokens ++ [] ++ [] ++ [] ++ [] ++ [] ++ []) :=
    .clauses clause .absent .absent .absent .absent .absent .absent
  simpa only [List.append_nil] using clauses

/-- A query of siblings is a query, with the nesting of the deepest one. -/
theorem SiblingsPhrase.queryPhrase {nesting : Nat} {tokens : List Token} {query : Query}
    (siblings : SiblingsPhrase nesting tokens query) :
    QueryPhrase nesting tokens query := by
  cases siblings with
  | @query _ _ whereWord sign connective _ _ firstTokens _ _ first others isSelect
      columnPhrases isFrom sourcePhrases isWhere isSign arePhrases areConditions =>
      obtain ⟨firstIsPhrase, othersArePhrases⟩ := List.forall_mem_cons.mp arePhrases
      obtain ⟨firstIsCondition, othersAreConditions⟩ := List.forall_mem_cons.mp areConditions
      have joined :
          Phrase nesting (.ofConnective connective) (joinTokens sign firstTokens others)
            (joinExpressions (.logical connective) first others) :=
        @phrase_of_joined nesting (.logical connective) sign _ _ isSign rfl
          (.loosen firstIsPhrase) others othersArePhrases
      have isLooser : Level.disjunction.strength ≤ (Level.ofConnective connective).strength := by
        cases connective <;> decide
      have isCondition :=
        isCondition_joinExpressions connective firstIsCondition others othersAreConditions
      have body :
          ConditionPhrase nesting (joinTokens sign firstTokens others)
            (joinExpressions (.logical connective) first others) :=
        ⟨joined.loosenTo isLooser, isCondition.1, isCondition.2⟩
      have clause :
          OptionalPhrase [.whereWord] (ConditionPhrase nesting)
            (whereWord :: joinTokens sign firstTokens others)
            (some (joinExpressions (.logical connective) first others)) :=
        @OptionalPhrase.present _ _ _ [whereWord] _ _ (congrArg (fun word => [word]) isWhere) body
      exact
        .query isSelect columnPhrases isFrom sourcePhrases
          (clausePhrases_condition _ _ clause)

end Grammar

end EventQuery
