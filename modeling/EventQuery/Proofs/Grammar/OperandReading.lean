import EventQuery.Proofs.Grammar.Phrase
import EventQuery.Proofs.Grammar.Reading

/-!
# What the readers of operands give

When each reader of the tight half of the expression grammar succeeds.  The
readers are taken as they run, with the expressions nested in them read by
`expression` itself.
-/

namespace EventQuery.Grammar

variable (setting : Setting)

/-! ## Constants and lists -/

theorem literalStart?_eq_whole_iff {token : Token} {value : Literal} :
    literalStart? token = some (.whole value) ↔ LiteralPhrase [token] value := by
  constructor
  · intro starts
    unfold literalStart? at starts
    split at starts
    · rename_i means
      cases starts
      exact .string means
    · rename_i means
      cases starts
      exact .number means
    · cases starts
    · obtain ⟨truth, means, equal⟩ := Option.map_eq_some_iff.mp starts
      cases equal
      exact .boolean means
  · intro phrase
    cases phrase with
    | string means => simp [literalStart?, means]
    | number means => simp [literalStart?, means]
    | boolean means =>
        unfold literalStart?
        split <;> simp_all [Token.boolean?]

theorem literalStart?_eq_minus_iff {token : Token} :
    literalStart? token = some .minus ↔ token.content = .arithmetic .subtract := by
  unfold literalStart?
  split <;> simp_all

/-- A constant is a token of its own, or a minus sign and a number. -/
theorem literalPhrase_cases {used : List Token} {value : Literal}
    (phrase : LiteralPhrase used value) :
    (∃ token, used = [token] ∧ literalStart? token = some (.whole value)) ∨
      ∃ (sign token : Token) (number : Number),
        used = [sign, token] ∧ literalStart? sign = some .minus ∧
          token.number?.bind Number.negate? = some number ∧
          value = .number number := by
  cases phrase with
  | string means => exact Or.inl ⟨_, rfl, literalStart?_eq_whole_iff.mpr (.string means)⟩
  | number means => exact Or.inl ⟨_, rfl, literalStart?_eq_whole_iff.mpr (.number means)⟩
  | boolean means => exact Or.inl ⟨_, rfl, literalStart?_eq_whole_iff.mpr (.boolean means)⟩
  | opposite isMinus means isOpposite =>
      exact
        Or.inr
          ⟨_, _, _, rfl, literalStart?_eq_minus_iff.mpr isMinus,
            Option.bind_eq_some_iff.mpr
              ⟨_, Token.number?_eq_some_iff.mpr means, isOpposite⟩,
            rfl⟩

/-- Constants need no lookahead, so reading one and being one are the same. -/
theorem gives_literal_iff
    {cursor after : Cursor}
    {value : Literal} :
    Gives (literal setting cursor) value after ↔
      ∃ used, cursor = after.preceded used ∧ LiteralPhrase used value := by
  unfold literal
  constructor
  · intro gives
    obtain ⟨token, start, place, _, rfl, starts, gives⟩ :=
      (gives_bind_take_iff setting).mp gives
    cases start with
    | whole found =>
        obtain ⟨rfl, rfl⟩ := gives_pure_iff.mp gives
        exact ⟨[token], rfl, literalStart?_eq_whole_iff.mp starts⟩
    | minus =>
        obtain ⟨numberToken, number, last, _, rfl, accepted, gives⟩ :=
          (gives_bind_take_iff setting).mp gives
        obtain ⟨written, means, isOpposite⟩ := Option.bind_eq_some_iff.mp accepted
        obtain ⟨rfl, rfl⟩ := gives_pure_iff.mp (gives_before_iff.mp gives)
        exact
          ⟨[token, numberToken], rfl,
            .opposite (literalStart?_eq_minus_iff.mp starts)
              (Token.number?_eq_some_iff.mp means) isOpposite⟩
  · rintro ⟨used, rfl, phrase⟩
    rcases literalPhrase_cases phrase with
      ⟨token, rfl, starts⟩ | ⟨sign, token, number, rfl, starts, isOpposite, rfl⟩
    · refine gives_bind_take_of_accepts setting starts ?_
      exact gives_pure_iff.mpr ⟨rfl, rfl⟩
    · rw [Cursor.preceded_cons]
      refine gives_bind_take_of_accepts setting starts ?_
      refine gives_bind_take_of_accepts setting isOpposite ?_
      exact gives_before_iff.mpr (gives_pure_iff.mpr ⟨rfl, rfl⟩)

/-- What goes on after an item of a list in parentheses. -/
theorem listMark?_eq_some_iff {token : Token} {goesOn : Bool} :
    listMark? token = some goesOn ↔
      (goesOn = true ∧ token.content = .comma) ∨
        (goesOn = false ∧ token.content = .rightParenthesis) := by
  unfold listMark?
  cases goesOn <;> split <;> simp_all

section ClosedList

variable {α : Type} {bound : Nat}
    {item : (cursor : Cursor) → cursor.size ≤ bound → Outcome α cursor.size}

/-- One step through a list in parentheses: the last item, or an item and more. -/
theorem gives_closedList_iff
    {cursor after : Cursor}
    {isWithin : cursor.size ≤ bound}
    {values : List α} :
    Gives (closedList setting item cursor isWithin) values after ↔
      ∃ (first : α) (place next : Cursor) (mark : Token),
        Gives (item cursor isWithin) first place ∧
          place = next.preceded [mark] ∧
          ((mark.content = .rightParenthesis ∧ values = [first] ∧ after = next) ∨
            (mark.content = .comma ∧
              ∃ (isWithin' : next.size ≤ bound) (others : List α),
                values = first :: others ∧
                  Gives (closedList setting item next isWithin') others after)) := by
  rw [closedList]
  constructor
  · intro gives
    obtain ⟨first, place, _, itemGives, gives⟩ := gives_bind_outcome_iff.mp gives
    obtain ⟨mark, goesOn, next, _, rfl, marks, gives⟩ :=
      (gives_bind_take_iff setting).mp gives
    refine ⟨first, _, next, mark, itemGives, rfl, ?_⟩
    cases goesOn with
    | false =>
        obtain ⟨rfl, rfl⟩ := gives_pure_iff.mp (gives_before_iff.mp gives)
        exact Or.inl ⟨by simpa using listMark?_eq_some_iff.mp marks, rfl, rfl⟩
    | true =>
        obtain ⟨others, last, _, othersGive, gives⟩ := gives_bind_outcome_iff.mp gives
        obtain ⟨rfl, rfl⟩ :=
          gives_pure_iff.mp (gives_before_iff.mp (gives_before_iff.mp gives))
        exact
          Or.inr
            ⟨by simpa using listMark?_eq_some_iff.mp marks, _, others, rfl, othersGive⟩
  · rintro ⟨first, place, next, mark, itemGives, rfl,
      ends | ⟨isComma, isWithin', others, rfl, othersGive⟩⟩
    · obtain ⟨closes, rfl, rfl⟩ := ends
      have marks := listMark?_eq_some_iff.mpr (Or.inr ⟨rfl, closes⟩)
      refine gives_bind_of_gives itemGives ?_
      refine gives_bind_take_of_accepts setting marks ?_
      exact gives_before_iff.mpr (gives_pure_iff.mpr ⟨rfl, rfl⟩)
    · have marks := listMark?_eq_some_iff.mpr (Or.inl ⟨rfl, isComma⟩)
      refine gives_bind_of_gives itemGives ?_
      refine gives_bind_take_of_accepts setting marks ?_
      refine gives_bind_of_gives othersGive ?_
      exact
        gives_before_iff.mpr (gives_before_iff.mpr (gives_pure_iff.mpr ⟨rfl, rfl⟩))

/--
A list in parentheses is made of items with commas between them, if each of its
items is one.  Items are read at one depth.
-/
theorem separated_of_gives_closedList
    {Item : List Token → α → Prop} {depth : Nat}
    (itemSound :
      ∀ {cursor after : Cursor} (isWithin : cursor.size ≤ bound) {value : α},
        cursor.depth = depth →
          Gives (item cursor isWithin) value after →
            ∃ used, cursor = after.preceded used ∧ Item used value)
    {cursor after : Cursor}
    {isWithin : cursor.size ≤ bound}
    {values : List α}
    (atDepth : cursor.depth = depth)
    (gives : Gives (closedList setting item cursor isWithin) values after) :
    ∃ (used : List Token) (closing : Token),
      cursor = after.preceded (used ++ [closing]) ∧
        Separated Item used values ∧ closing.content = .rightParenthesis := by
  induction values generalizing cursor with
  | nil =>
      obtain ⟨first, _, next, mark, _, _, ends | goesOn⟩ :=
        (gives_closedList_iff setting).mp gives
      · obtain ⟨_, impossible, _⟩ := ends
        cases impossible
      · obtain ⟨_, _, _, impossible, _⟩ := goesOn
        cases impossible
  | cons value values ih =>
      obtain ⟨first, _, next, mark, itemGives, rfl, ends | goesOn⟩ :=
        (gives_closedList_iff setting).mp gives
      · obtain ⟨closes, equal, rfl⟩ := ends
        obtain ⟨rfl, rfl⟩ := List.cons.inj equal
        obtain ⟨used, rfl, phrase⟩ := itemSound isWithin atDepth itemGives
        exact ⟨used, mark, (after.preceded_append used [mark]).symm, .last phrase, closes⟩
      · obtain ⟨isComma, isWithin', others, equal, othersGive⟩ := goesOn
        obtain ⟨rfl, rfl⟩ := List.cons.inj equal
        obtain ⟨used, rfl, phrase⟩ := itemSound isWithin atDepth itemGives
        obtain ⟨rest, closing, rfl, separated, closes⟩ :=
          @ih next isWithin' atDepth othersGive
        refine ⟨used ++ mark :: rest, closing, ?_, .more phrase isComma separated, closes⟩
        simp [Cursor.preceded]

/--
Items with commas between them and a closing parenthesis behind them are read
as a list, if each item is read in front of a comma or parenthesis.
-/
theorem gives_closedList_of_separated
    {Item : List Token → α → Prop} {depth : Nat}
    (itemComplete :
      ∀ {used : List Token} {value : α} {mark : Token} {next : Cursor}
        (isWithin : ((next.preceded [mark]).preceded used).size ≤ bound),
        next.depth = depth →
          mark.content = .comma ∨ mark.content = .rightParenthesis →
            Item used value →
              Gives (item ((next.preceded [mark]).preceded used) isWithin) value
                (next.preceded [mark]))
    {used : List Token} {values : List α} {closing : Token} {after : Cursor}
    (separated : Separated Item used values)
    (closes : closing.content = .rightParenthesis)
    (atDepth : after.depth = depth)
    (isWithin : ((after.preceded [closing]).preceded used).size ≤ bound) :
    Gives
      (closedList setting item ((after.preceded [closing]).preceded used) isWithin)
      values after := by
  induction separated with
  | @last tokens value phrase =>
      refine (gives_closedList_iff setting).mpr ⟨value, _, after, closing, ?_, rfl, ?_⟩
      · exact itemComplete isWithin atDepth (Or.inr closes) phrase
      · exact Or.inl ⟨closes, rfl, rfl⟩
  | @more tokens others comma value values phrase isComma rest ih =>
      have split :
          (after.preceded [closing]).preceded (tokens ++ comma :: others) =
            (((after.preceded [closing]).preceded others).preceded [comma]).preceded
              tokens := by
        simp [Cursor.preceded]
      have isWithin' : ((after.preceded [closing]).preceded others).size ≤ bound := by
        simp only [Cursor.size_preceded, List.length_append, List.length_cons]
          at isWithin ⊢
        omega
      revert isWithin
      rw [split]
      intro isWithin
      refine
        (gives_closedList_iff setting).mpr
          ⟨value, _, (after.preceded [closing]).preceded others, comma, ?_, rfl, ?_⟩
      · exact itemComplete isWithin atDepth (Or.inl isComma) phrase
      · exact Or.inr ⟨isComma, isWithin', values, rfl, ih isWithin'⟩

end ClosedList

/-- The literals after IN are read exactly where they stand in parentheses. -/
theorem gives_literalList_iff
    {cursor after : Cursor}
    {values : List Literal} :
    Gives (literalList setting cursor) values after ↔
      ∃ (opening closing : Token) (used : List Token),
        cursor = after.preceded (opening :: (used ++ [closing])) ∧
          opening.content = .leftParenthesis ∧
          Separated LiteralPhrase used values ∧
          closing.content = .rightParenthesis := by
  unfold literalList
  constructor
  · intro gives
    obtain ⟨opening, place, _, rfl, opens, gives⟩ :=
      (gives_bind_take_exactly_iff setting).mp gives
    obtain ⟨used, closing, rfl, separated, closes⟩ :=
      separated_of_gives_closedList setting
        (fun _ _ _ => (gives_literal_iff setting).mp) rfl
        (gives_before_iff.mp gives)
    exact ⟨opening, closing, used, rfl, opens, separated, closes⟩
  · rintro ⟨opening, closing, used, rfl, opens, separated, closes⟩
    rw [Cursor.preceded_cons, Cursor.preceded_append]
    refine gives_bind_take_of_accepts setting (exactly_of_content opens) ?_
    refine gives_before_iff.mpr ?_
    exact
      gives_closedList_of_separated setting
        (fun _ _ _ phrase => (gives_literal_iff setting).mpr ⟨_, rfl, phrase⟩)
        separated closes rfl _

/-! ## Calls, groups and signs -/

/-- The reader of the expressions nested after a place. -/
abbrev nestedFrom (cursor : Cursor) : Nested cursor.size :=
  nestedExpression setting cursor.size

/-- What is read as an argument is the star alone or an expression. -/
theorem of_gives_argument
    {cursor after : Cursor}
    {value : Expression}
    (gives :
      Gives
        (argument setting cursor (nestedExpression setting (cursor.size + 1)))
        value after) :
    (∃ token, cursor = after.preceded [token] ∧
        token.content = .arithmetic .multiply ∧ value = .wildcard) ∨
      Gives (expression setting .value cursor) value after := by
  unfold argument at gives
  rcases (gives_bind_takeIf?_iff setting).mp gives with
    ⟨_, gives⟩ | ⟨token, star, place, isShorter, equal, accepted, gives⟩
  · obtain ⟨ahead, _, gives⟩ := gives_bind_iff.mp gives
    split at gives
    · exact (not_gives_throw gives).elim
    · exact (not_gives_throw gives).elim
    · exact Or.inr gives
  · obtain ⟨means, _⟩ := exactly_eq_some_iff.mp accepted
    obtain ⟨rfl, rfl⟩ := gives_pure_iff.mp gives
    exact Or.inl ⟨token, equal, means, rfl⟩

theorem gives_argument_of_star
    {after : Cursor}
    {token : Token}
    (isStar : token.content = .arithmetic .multiply) :
    Gives
      (argument setting (after.preceded [token])
        (nestedExpression setting ((after.preceded [token]).size + 1)))
      .wildcard after := by
  unfold argument
  refine gives_bind_takeIf?_of_accepts setting (exactly_of_content isStar) ?_
  exact gives_pure_iff.mpr ⟨rfl, rfl⟩

theorem gives_argument_of_expression
    {place after : Cursor}
    {token : Token}
    {value : Expression}
    (isNoStar : token.content ≠ .arithmetic .multiply)
    (isNoComma : token.content ≠ .comma)
    (isNoClosing : token.content ≠ .rightParenthesis)
    (gives : Gives (expression setting .value (place.preceded [token])) value after) :
    Gives
      (argument setting (place.preceded [token])
        (nestedExpression setting ((place.preceded [token]).size + 1)))
      value after := by
  unfold argument
  refine gives_bind_takeIf?_of_declines setting ?_ ?_
  · exact
      (declines_preceded_iff setting).mpr (exactly_eq_none_iff.mpr isNoStar)
  · refine gives_bind_iff.mpr ⟨token, rfl, ?_⟩
    split
    · exact absurd ‹_› isNoComma
    · exact absurd ‹_› isNoClosing
    · exact gives

/-- The reader of arguments, item by item. -/
abbrev argumentItem (cursor : Cursor) :
    (place : Cursor) → place.size ≤ cursor.size → Outcome Expression place.size :=
  fun place _ => argument setting place (nestedExpression setting (place.size + 1))

/-- Arguments are nothing but a closing parenthesis, or a list in parentheses. -/
theorem gives_arguments_iff
    {cursor after : Cursor}
    {values : List Expression} :
    Gives
        (arguments setting cursor (nestedExpression setting (cursor.size + 1)))
        values after ↔
      (∃ closing, cursor = after.preceded [closing] ∧
          closing.content = .rightParenthesis ∧ values = []) ∨
        (Declines setting cursor (exactly .rightParenthesis) ∧
          Gives
            (closedList setting (argumentItem setting cursor) cursor (Nat.le_refl _))
            values after) := by
  unfold arguments
  constructor
  · intro gives
    rcases (gives_bind_takeIf?_iff setting).mp gives with
      ⟨declines, gives⟩ | ⟨token, found, place, _, rfl, accepted, gives⟩
    · exact Or.inr ⟨declines, gives⟩
    · obtain ⟨means, _⟩ := exactly_eq_some_iff.mp accepted
      obtain ⟨rfl, rfl⟩ := gives_pure_iff.mp gives
      exact Or.inl ⟨token, rfl, means, rfl⟩
  · rintro (⟨closing, rfl, closes, rfl⟩ | ⟨declines, gives⟩)
    · refine gives_bind_takeIf?_of_accepts setting (exactly_of_content closes) ?_
      exact gives_pure_iff.mpr ⟨rfl, rfl⟩
    · exact gives_bind_takeIf?_of_declines setting declines gives

theorem gives_bind_checkDepth_iff
    {α : Type} {bound : Nat} {value : α}
    {cursor after : Cursor} {token : Token}
    {next : Unit → Outcome α bound} :
    Gives (checkDepth setting cursor token >>= next) value after ↔
      cursor.depth < setting.maxDepth ∧ Gives (next ()) value after := by
  rw [gives_bind_iff]
  constructor
  · rintro ⟨_, checked, gives⟩
    exact ⟨(checkDepth_eq_ok_iff setting).mp checked, gives⟩
  · rintro ⟨isShallow, gives⟩
    exact ⟨(), (checkDepth_eq_ok_iff setting).mpr isShallow, gives⟩

theorem operandStart?_eq_group_iff {token opening : Token} :
    operandStart? token = some (.group opening) ↔
      token.content = .leftParenthesis ∧ opening = token := by
  unfold operandStart?
  cases token.content <;> cases token.boolean? <;> simp [eq_comm]

theorem operandStart?_eq_name_iff {token : Token} {name : String} :
    operandStart? token = some (.name name) ↔
      token.boolean? = none ∧ token.name? = some name := by
  unfold operandStart? Token.name?
  cases token.content <;> cases token.boolean? <;> simp

theorem operandStart?_eq_whole_iff {token : Token} {value : Literal} :
    operandStart? token = some (.whole value) ↔ LiteralPhrase [token] value := by
  rw [← literalStart?_eq_whole_iff]
  unfold operandStart? literalStart?
  cases content : token.content <;> cases truth : token.boolean? <;>
    simp_all [Token.boolean?]
  split <;> simp_all

/--
A primary is a constant, a name without a parenthesis behind it, a call, or an
expression in parentheses.
-/
theorem gives_primary_iff
    {context : Context}
    {cursor after : Cursor}
    {value : Expression} :
    Gives (primary setting context cursor (nestedFrom setting cursor)) value after ↔
      ∃ (token : Token) (place : Cursor),
        cursor = place.preceded [token] ∧
          ((∃ constant, LiteralPhrase [token] constant ∧
              value = .literal constant ∧ after = place) ∨
            (token.content = .leftParenthesis ∧ place.depth < setting.maxDepth ∧
              ∃ (closing : Token) (last : Cursor),
                closing.content = .rightParenthesis ∧ after = last.shallower ∧
                  Gives (expression setting context.inGroup place.deeper) value
                    (last.preceded [closing])) ∨
            (∃ name, token.boolean? = none ∧ token.name? = some name ∧
              ((Declines setting place (exactly .leftParenthesis) ∧
                  value = .field name ∧ after = place) ∨
                ∃ (opening : Token) (inner last : Cursor) (values : List Expression),
                  place = inner.preceded [opening] ∧
                    opening.content = .leftParenthesis ∧
                    place.depth < setting.maxDepth ∧ after = last.shallower ∧
                    value = .call name values ∧
                    Gives
                      (arguments setting inner.deeper
                        (nestedExpression setting (inner.deeper.size + 1)))
                      values last))) := by
  unfold primary
  constructor
  · intro gives
    obtain ⟨token, start, place, _, rfl, starts, gives⟩ :=
      (gives_bind_take_iff setting).mp gives
    refine ⟨token, place, rfl, ?_⟩
    cases start with
    | whole constant =>
        obtain ⟨rfl, rfl⟩ := gives_pure_iff.mp gives
        exact Or.inl ⟨constant, operandStart?_eq_whole_iff.mp starts, rfl, rfl⟩
    | group opening =>
        obtain ⟨opens, rfl⟩ := operandStart?_eq_group_iff.mp starts
        obtain ⟨isShallow, gives⟩ := (gives_bind_checkDepth_iff setting).mp gives
        obtain ⟨inner, behind, _, innerGives, gives⟩ := gives_bind_outcome_iff.mp gives
        obtain ⟨closing, last, _, rfl, closes, gives⟩ :=
          (gives_bind_take_exactly_iff setting).mp gives
        obtain ⟨rfl, rfl⟩ :=
          gives_pure_iff.mp (gives_before_iff.mp (gives_before_iff.mp gives))
        exact
          Or.inr (Or.inl ⟨opens, isShallow, closing, last, closes, rfl, innerGives⟩)
    | name name =>
        obtain ⟨isNoBoolean, means⟩ := operandStart?_eq_name_iff.mp starts
        refine Or.inr (Or.inr ⟨name, isNoBoolean, means, ?_⟩)
        rcases (gives_bind_takeIf?_iff setting).mp gives with
          ⟨declines, gives⟩ | ⟨opening, found, inner, _, rfl, accepted, gives⟩
        · obtain ⟨rfl, rfl⟩ := gives_pure_iff.mp gives
          exact Or.inl ⟨declines, rfl, rfl⟩
        · obtain ⟨opens, rfl⟩ := exactly_eq_some_iff.mp accepted
          obtain ⟨isShallow, gives⟩ := (gives_bind_checkDepth_iff setting).mp gives
          obtain ⟨values, last, _, valuesGive, gives⟩ := gives_bind_outcome_iff.mp gives
          obtain ⟨rfl, rfl⟩ :=
            gives_pure_iff.mp (gives_before_iff.mp (gives_before_iff.mp gives))
          exact
            Or.inr
              ⟨found, inner, last, values, rfl, opens, isShallow, rfl, rfl, valuesGive⟩
  · rintro ⟨token, place, rfl, cases⟩
    rcases cases with
      ⟨constant, phrase, rfl, rfl⟩ |
      ⟨opens, isShallow, closing, last, closes, rfl, innerGives⟩ |
      ⟨name, isNoBoolean, means, call⟩
    · refine gives_bind_take_of_accepts setting (operandStart?_eq_whole_iff.mpr phrase) ?_
      exact gives_pure_iff.mpr ⟨rfl, rfl⟩
    · have starts := operandStart?_eq_group_iff.mpr ⟨opens, rfl⟩
      refine gives_bind_take_of_accepts setting starts ?_
      refine (gives_bind_checkDepth_iff setting).mpr ⟨isShallow, ?_⟩
      refine gives_bind_of_gives innerGives ?_
      refine gives_bind_take_of_accepts setting (exactly_of_content closes) ?_
      exact
        gives_before_iff.mpr (gives_before_iff.mpr (gives_pure_iff.mpr ⟨rfl, rfl⟩))
    · have starts := operandStart?_eq_name_iff.mpr ⟨isNoBoolean, means⟩
      refine gives_bind_take_of_accepts setting starts ?_
      rcases call with
        ⟨declines, rfl, rfl⟩ |
        ⟨opening, inner, last, values, rfl, opens, isShallow, rfl, rfl, valuesGive⟩
      · refine gives_bind_takeIf?_of_declines setting declines ?_
        exact gives_pure_iff.mpr ⟨rfl, rfl⟩
      · refine gives_bind_takeIf?_of_accepts setting (exactly_of_content opens) ?_
        refine (gives_bind_checkDepth_iff setting).mpr ⟨isShallow, ?_⟩
        refine gives_bind_of_gives valuesGive ?_
        exact
          gives_before_iff.mpr (gives_before_iff.mpr (gives_pure_iff.mpr ⟨rfl, rfl⟩))

/-- A signed operand is a primary, or a minus sign and a signed operand. -/
theorem gives_signed_iff
    {context : Context}
    {cursor after : Cursor}
    {value : Expression} :
    Gives (signed setting context cursor (nestedFrom setting cursor)) value after ↔
      (Declines setting cursor (exactly (.arithmetic .subtract)) ∧
          Gives (primary setting context cursor (nestedFrom setting cursor))
            value after) ∨
        ∃ (sign : Token) (place last : Cursor) (operand : Expression),
          cursor = place.preceded [sign] ∧ sign.content = .arithmetic .subtract ∧
            place.depth < setting.maxDepth ∧ after = last.shallower ∧
            value = negated operand ∧
            Gives
              (signed setting .value place.deeper (nestedFrom setting place.deeper))
              operand last := by
  rw [signed]
  constructor
  · intro gives
    rcases (gives_bind_takeIf?_iff setting).mp gives with
      given | ⟨sign, found, place, _, rfl, accepted, gives⟩
    · exact Or.inl given
    · obtain ⟨isMinus, rfl⟩ := exactly_eq_some_iff.mp accepted
      obtain ⟨isShallow, gives⟩ := (gives_bind_checkDepth_iff setting).mp gives
      obtain ⟨operand, last, _, operandGives, gives⟩ := gives_bind_outcome_iff.mp gives
      obtain ⟨rfl, rfl⟩ := gives_pure_iff.mp (gives_before_iff.mp gives)
      exact
        Or.inr
          ⟨found, place, last, operand, rfl, isMinus, isShallow, rfl, rfl, operandGives⟩
  · rintro (⟨declines, gives⟩ |
      ⟨sign, place, last, operand, rfl, isMinus, isShallow, rfl, rfl, operandGives⟩)
    · exact gives_bind_takeIf?_of_declines setting declines gives
    · refine gives_bind_takeIf?_of_accepts setting (exactly_of_content isMinus) ?_
      refine (gives_bind_checkDepth_iff setting).mpr ⟨isShallow, ?_⟩
      refine gives_bind_of_gives operandGives ?_
      exact gives_before_iff.mpr (gives_pure_iff.mpr ⟨rfl, rfl⟩)

/-! ## Arithmetic -/

/-- A signed operand is read, and behind it the operators of some precedence and more. -/
def Climbs (least : Nat) (context : Context) (cursor : Cursor)
    (value : Expression) (after : Cursor) : Prop :=
  ∃ (first : Expression) (place : Cursor),
    Gives (signed setting context cursor (nestedFrom setting cursor)) first place ∧
      Gives (arithmeticAfter setting least first place (nestedFrom setting place))
        value after

theorem gives_arithmetic_iff
    {context : Context}
    {cursor after : Cursor}
    {value : Expression} :
    Gives (arithmetic setting context cursor (nestedFrom setting cursor)) value after ↔
      Climbs setting 0 context cursor value after := by
  unfold arithmetic Climbs
  constructor
  · intro gives
    obtain ⟨first, place, _, firstGives, gives⟩ := gives_bind_outcome_iff.mp gives
    exact ⟨first, place, firstGives, gives_beforeRest_iff.mp gives⟩
  · rintro ⟨first, place, firstGives, gives⟩
    exact gives_bind_of_gives firstGives (gives_beforeRest_iff.mpr gives)

theorem operatorAtLeast?_eq_some_iff
    {least : Nat} {token : Token} {operator : Arithmetic} :
    operatorAtLeast? least token = some operator ↔
      token.content = .arithmetic operator ∧ least ≤ operator.precedence := by
  unfold operatorAtLeast?
  split <;> rename_i means
  · simp only [means, TokenContent.arithmetic.injEq, Option.ite_none_right_eq_some,
      Option.some.injEq]
    constructor
    · rintro ⟨binds, rfl⟩
      exact ⟨rfl, binds⟩
    · rintro ⟨rfl, binds⟩
      exact ⟨binds, rfl⟩
  · simp_all

/-- Arithmetic goes on while operators follow that bind tightly enough. -/
theorem gives_arithmeticAfter_iff
    {least : Nat} {left : Expression}
    {cursor after : Cursor}
    {value : Expression} :
    Gives (arithmeticAfter setting least left cursor (nestedFrom setting cursor))
        value after ↔
      (Declines setting cursor (operatorAtLeast? least) ∧ value = left ∧
          after = cursor) ∨
        ∃ (sign : Token) (operator : Arithmetic) (place behind : Cursor)
          (right : Expression),
          cursor = place.preceded [sign] ∧ sign.content = .arithmetic operator ∧
            least ≤ operator.precedence ∧
            Climbs setting (operator.precedence + 1) .value place right behind ∧
            Gives
              (arithmeticAfter setting least
                (.binary (.arithmetic operator) left right) behind
                (nestedFrom setting behind))
              value after := by
  rw [arithmeticAfter]
  constructor
  · intro gives
    rcases (gives_bind_takeIf?_iff setting).mp gives with
      ⟨declines, gives⟩ | ⟨sign, operator, place, _, rfl, accepted, gives⟩
    · obtain ⟨rfl, rfl⟩ := gives_pure_iff.mp gives
      exact Or.inl ⟨declines, rfl, rfl⟩
    · obtain ⟨isSign, binds⟩ := operatorAtLeast?_eq_some_iff.mp accepted
      obtain ⟨first, next, _, firstGives, gives⟩ := gives_bind_outcome_iff.mp gives
      obtain ⟨right, behind, _, rightGives, gives⟩ := gives_bind_outcome_iff.mp gives
      have restGives := gives_beforeRest_iff.mp (gives_before_iff.mp (gives_relaxed_iff.mp gives))
      exact
        Or.inr
          ⟨sign, operator, place, behind, right, rfl, isSign, binds,
            ⟨first, next, firstGives, gives_beforeRest_iff.mp rightGives⟩, restGives⟩
  · rintro (⟨declines, rfl, rfl⟩ |
      ⟨sign, operator, place, behind, right, rfl, isSign, binds,
        ⟨first, next, firstGives, rightGives⟩, gives⟩)
    · refine gives_bind_takeIf?_of_declines setting declines ?_
      exact gives_pure_iff.mpr ⟨rfl, rfl⟩
    · have accepted := operatorAtLeast?_eq_some_iff.mpr ⟨isSign, binds⟩
      refine gives_bind_takeIf?_of_accepts setting accepted ?_
      refine gives_bind_of_gives firstGives ?_
      refine gives_bind_of_gives (gives_beforeRest_iff.mpr rightGives) ?_
      exact
        gives_relaxed_iff.mpr (gives_before_iff.mpr (gives_beforeRest_iff.mpr gives))

end EventQuery.Grammar
