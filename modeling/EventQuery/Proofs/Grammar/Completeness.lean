import EventQuery.Proofs.Grammar.Soundness

/-!
# Every phrase is read

Completeness of the expression grammar: where the tokens of a phrase stand, and
what follows does not bind into the phrase, the reader of the level gives what
the phrase says and stops behind it.

The levels with operators grow to the left, while their readers go from left to
right.  So for a phrase of such a level it is shown that whoever goes on behind
the phrase with its value has gone on from the start of the phrase.
-/

namespace EventQuery.Grammar

variable (setting : Setting)

/-! ## What follows a phrase -/

/-- How tightly a token binds to an operand in front of it. -/
def bindingStrength : TokenContent → Nat
  | .leftParenthesis => 8
  | .arithmetic operator => operator.precedence
  | .comparison _ => 4
  | .keyword .notWord => 4
  | .keyword .inWord => 4
  | .keyword .likeWord => 4
  | .keyword .andWord => 2
  | .keyword .orWord => 1
  | _ => 0

/-- The token at a place, if there is one, binds less tightly than a limit. -/
def BindsBelow (limit : Nat) (cursor : Cursor) : Prop :=
  ∀ ⦃token : Token⦄ ⦃place : Cursor⦄,
    cursor = place.preceded [token] → bindingStrength token.content < limit

/--
How loosely the token behind a phrase of a level has to bind, so that nothing
tighter than the operators of the level can take the end of the phrase.
-/
def Level.limit : Level → Nat
  | argument => 1
  | disjunction => 2
  | conjunction => 3
  | negation => 4
  | comparison => 4
  | sum => 6
  | product => 7
  | signed => 8
  | primary => 8

theorem Level.limit_le_tighter (level : Level) :
    level.limit ≤ level.tighter.limit := by
  cases level <;> simp [tighter, limit]

theorem BindsBelow.mono {limit wider : Nat} {cursor : Cursor}
    (binds : BindsBelow limit cursor) (isWider : limit ≤ wider) :
    BindsBelow wider cursor :=
  fun _ _ equal => Nat.lt_of_lt_of_le (binds equal) isWider

theorem bindsBelow_preceded_iff
    {limit : Nat} {token : Token} {place : Cursor} {tokens : List Token} :
    BindsBelow limit (place.preceded (token :: tokens)) ↔
      bindingStrength token.content < limit := by
  rw [Cursor.preceded_cons]
  constructor
  · intro binds
    exact binds rfl
  · intro less token' place' equal
    obtain ⟨rfl, _⟩ := Cursor.preceded_singleton_inj.mp equal
    exact less

/-- A reader that accepts no token of a lesser strength passes over nothing. -/
theorem declines_of_bindsBelow
    {α : Type} {accept : Token → Option α} {limit : Nat} {cursor : Cursor}
    {ending : Token}
    (endsWell : setting.ending = .ok ending)
    (binds : BindsBelow limit cursor)
    (rejects : ∀ token, bindingStrength token.content < limit → accept token = none) :
    Declines setting cursor accept := by
  rcases cursor.eq_end_or_preceded with isEnd | ⟨token, place, rfl⟩
  · exact declines_end setting endsWell isEnd
  · exact (declines_preceded_iff setting).mpr (rejects token (binds rfl))

/-- A token with which a phrase may start is passed over by nothing that starts none. -/
theorem declines_of_startsAt
    {α : Type} {accept : Token → Option α} {level : Level} {tokens : List Token}
    {after : Cursor}
    (starts : StartsAt level tokens)
    (rejects :
      ∀ (token : Token) (strength : Nat),
        openingStrength? token.content = some strength → level.strength ≤ strength →
          accept token = none) :
    Declines setting (after.preceded tokens) accept := by
  obtain ⟨token, rest, strength, rfl, opens, isLoose⟩ := starts
  rw [Cursor.preceded_cons]
  exact (declines_preceded_iff setting).mpr (rejects token strength opens isLoose)

theorem exactly_eq_none_of_bindsBelow
    {content : TokenContent} {limit : Nat}
    (isStrong : limit ≤ bindingStrength content)
    (token : Token)
    (binds : bindingStrength token.content < limit) :
    exactly content token = none := by
  rw [exactly_eq_none_iff]
  intro equal
  rw [equal] at binds
  omega

theorem exactly_eq_none_of_opening
    {content : TokenContent} {level : Level}
    (opensLooser :
      ∀ strength, openingStrength? content = some strength → strength < level.strength)
    (token : Token) (strength : Nat)
    (opens : openingStrength? token.content = some strength)
    (isLoose : level.strength ≤ strength) :
    exactly content token = none := by
  rw [exactly_eq_none_iff]
  intro equal
  rw [equal] at opens
  have less := opensLooser strength opens
  omega

theorem operatorAtLeast?_eq_none_of_bindsBelow
    {least limit : Nat}
    (isStrong : limit ≤ least ∨ limit ≤ 5)
    (token : Token)
    (binds : bindingStrength token.content < limit) :
    operatorAtLeast? least token = none := by
  rw [Option.eq_none_iff_forall_ne_some]
  intro operator accepted
  obtain ⟨isSign, isAtLeast⟩ := operatorAtLeast?_eq_some_iff.mp accepted
  have bound := five_le_precedence operator
  rw [isSign] at binds
  simp only [bindingStrength] at binds
  omega

/-! ## Chains -/

variable {setting} {ending : Token}

section Chains

variable {connective : Connective} {context : Context} {operand : Reader}
    {used rightTokens : List Token} {left right : Expression} {after : Cursor}

/-- Whoever goes on with a chain behind some tokens has gone on from their start. -/
def LeadsChain (setting : Setting) (connective : Connective) (context : Context)
    (operand : Reader) (used : List Token) (left : Expression) (after : Cursor) : Prop :=
  ∀ ⦃value : Expression⦄ ⦃last : Cursor⦄,
    (∀ start,
      Gives
        (chainAfter setting connective context operand start left after
          (nestedFrom setting after))
        value last) →
    Gives
      (chain setting connective context operand (after.preceded used)
        (nestedFrom setting (after.preceded used)))
      value last

theorem leadsChain_of_operand
    (operandGives :
      Gives (operand (after.preceded used) (nestedFrom setting (after.preceded used)))
        left after) :
    LeadsChain setting connective context operand used left after := by
  intro value last goesOn
  obtain ⟨start, ahead⟩ := exists_peek_of_gives setting operandGives
  exact (gives_chain_iff setting).mpr ⟨start, left, after, ahead, operandGives, goesOn start⟩

theorem leadsChain_connected
    {word : Token}
    (leads :
      LeadsChain setting connective context operand used left
        (after.preceded (word :: rightTokens)))
    (isWord : word.content = .keyword (Level.connectiveKeyword connective))
    (rightGives :
      Gives
        (operand (after.preceded rightTokens)
          (nestedFrom setting (after.preceded rightTokens)))
        right after)
    (leftHolds : context = .value ∨ left.isCondition = true)
    (rightHolds : context = .value ∨ right.isCondition = true) :
    LeadsChain setting connective context operand (used ++ word :: rightTokens)
      (.binary (.logical connective) left right) after := by
  intro value last goesOn
  rw [Cursor.preceded_append]
  refine leads fun start => ?_
  refine
    (gives_chainAfter_iff setting).mpr
      (Or.inr
        ⟨word, after.preceded rightTokens, after, right, rfl, ?_, leftHolds, rightHolds,
          rightGives, goesOn start⟩)
  rw [connectiveWord_eq]
  exact isWord

theorem strength_ofConnective_eq (connective : Connective) :
    bindingStrength (.keyword (connectiveWord connective)) =
      (Level.ofConnective connective).strength := by
  cases connective <;> rfl

theorem gives_chain_of_leadsChain
    (endsWell : setting.ending = .ok ending)
    (leads : LeadsChain setting connective context operand used left after)
    (binds : BindsBelow (Level.ofConnective connective).strength after) :
    Gives
      (chain setting connective context operand (after.preceded used)
        (nestedFrom setting (after.preceded used)))
      left after := by
  refine leads fun start => (gives_chainAfter_iff setting).mpr (Or.inl ⟨?_, rfl, rfl⟩)
  exact
    declines_of_bindsBelow setting endsWell binds
      (exactly_eq_none_of_bindsBelow (Nat.le_of_eq (strength_ofConnective_eq _).symm))

end Chains

/-! ## Climbs -/

section Climbing

variable {context : Context} {level : Level}
    {used rightTokens : List Token} {left right : Expression} {after : Cursor}

/-- Whoever climbs on behind some tokens has climbed from their start. -/
def LeadsClimb (setting : Setting) (context : Context) (level : Level)
    (used : List Token) (left : Expression) (after : Cursor) : Prop :=
  ∀ ⦃least : Nat⦄ ⦃value : Expression⦄ ⦃last : Cursor⦄,
    least ≤ level.strength →
      Gives (arithmeticAfter setting least left after (nestedFrom setting after))
        value last →
      Climbs setting least context (after.preceded used) value last

theorem leadsClimb_of_signed
    (signedGives :
      Gives
        (signed setting context (after.preceded used)
          (nestedFrom setting (after.preceded used)))
        left after) :
    LeadsClimb setting context level used left after :=
  fun _ _ _ _ goesOn => ⟨left, after, signedGives, goesOn⟩

theorem LeadsClimb.loosen
    {loose : Level}
    (leads : LeadsClimb setting context level used left after)
    (isLooser : loose.strength ≤ level.strength) :
    LeadsClimb setting context loose used left after :=
  fun _ _ _ isAllowed goesOn => leads (Nat.le_trans isAllowed isLooser) goesOn

theorem climbs_of_leadsClimb
    {least limit : Nat}
    (endsWell : setting.ending = .ok ending)
    (leads : LeadsClimb setting context level used left after)
    (isAllowed : least ≤ level.strength)
    (binds : BindsBelow limit after)
    (isStrong : limit ≤ least ∨ limit ≤ 5) :
    Climbs setting least context (after.preceded used) left after := by
  refine
    leads isAllowed ((gives_arithmeticAfter_iff setting).mpr (Or.inl ⟨?_, rfl, rfl⟩))
  exact
    declines_of_bindsBelow setting endsWell binds
      (operatorAtLeast?_eq_none_of_bindsBelow isStrong)

theorem leadsClimb_computed
    {operator : Arithmetic} {sign : Token}
    (endsWell : setting.ending = .ok ending)
    (leads :
      LeadsClimb setting context (.ofArithmetic operator) used left
        (after.preceded (sign :: rightTokens)))
    (isSign : sign.content = .arithmetic operator)
    (rightLeads :
      LeadsClimb setting .value (Level.ofArithmetic operator).tighter rightTokens right
        after)
    (binds : BindsBelow (Level.ofArithmetic operator).limit after) :
    LeadsClimb setting context (.ofArithmetic operator) (used ++ sign :: rightTokens)
      (.binary (.arithmetic operator) left right) after := by
  intro least value last isAllowed goesOn
  rw [Cursor.preceded_append]
  refine leads isAllowed ((gives_arithmeticAfter_iff setting).mpr (Or.inr ?_))
  rw [strength_ofArithmetic] at isAllowed
  refine
    ⟨sign, operator, after.preceded rightTokens, after, right, rfl, isSign, isAllowed,
      ?_, goesOn⟩
  refine climbs_of_leadsClimb endsWell rightLeads ?_ binds (Or.inl ?_)
  · exact Nat.le_of_eq (strength_tighter_ofArithmetic operator).symm
  · cases operator <;> simp [Level.ofArithmetic, Level.limit, Arithmetic.precedence]

end Climbing

/-! ## The other levels -/

section Levels

variable {context : Context} {used : List Token} {value : Expression} {after : Cursor}

theorem gives_primary_of_literalPhrase
    {token : Token} {constant : Literal}
    (phrase : LiteralPhrase [token] constant) :
    Gives
      (primary setting context (after.preceded [token])
        (nestedFrom setting (after.preceded [token])))
      (.literal constant) after :=
  (gives_primary_iff setting).mpr
    ⟨token, after, rfl, Or.inl ⟨constant, phrase, rfl, rfl⟩⟩

theorem gives_primary_of_name
    {token : Token} {name : String}
    (endsWell : setting.ending = .ok ending)
    (isNoBoolean : token.boolean? = none)
    (means : token.name? = some name)
    (binds : BindsBelow 8 after) :
    Gives
      (primary setting context (after.preceded [token])
        (nestedFrom setting (after.preceded [token])))
      (.field name) after := by
  have declines : Declines setting after (exactly .leftParenthesis) :=
    declines_of_bindsBelow setting endsWell binds
      (exactly_eq_none_of_bindsBelow (Nat.le_refl 8))
  exact
    (gives_primary_iff setting).mpr
      ⟨token, after, rfl,
        Or.inr (Or.inr ⟨name, isNoBoolean, means, Or.inl ⟨declines, rfl, rfl⟩⟩)⟩

theorem gives_primary_of_arguments
    {token opening : Token} {name : String} {tokens : List Token}
    {values : List Expression}
    (isNoBoolean : token.boolean? = none)
    (means : token.name? = some name)
    (opens : opening.content = .leftParenthesis)
    (isShallow : after.depth < setting.maxDepth)
    (argumentsGive :
      Gives
        (arguments setting (after.deeper.preceded tokens)
          (nestedExpression setting ((after.deeper.preceded tokens).size + 1)))
        values after.deeper) :
    Gives
      (primary setting context (after.preceded (token :: opening :: tokens))
        (nestedFrom setting (after.preceded (token :: opening :: tokens))))
      (.call name values) after := by
  refine
    (gives_primary_iff setting).mpr
      ⟨token, after.preceded (opening :: tokens), rfl,
        Or.inr (Or.inr ⟨name, isNoBoolean, means, Or.inr ?_⟩)⟩
  exact
    ⟨opening, after.preceded tokens, after.deeper, values, rfl, opens, isShallow, rfl,
      rfl, argumentsGive⟩

theorem gives_primary_of_group
    {opening closing : Token} {tokens : List Token}
    (opens : opening.content = .leftParenthesis)
    (closes : closing.content = .rightParenthesis)
    (isShallow : after.depth < setting.maxDepth)
    (innerGives :
      Gives
        (expression setting context.inGroup
          ((after.deeper.preceded [closing]).preceded tokens))
        value (after.deeper.preceded [closing])) :
    Gives
      (primary setting context (after.preceded (opening :: (tokens ++ [closing])))
        (nestedFrom setting (after.preceded (opening :: (tokens ++ [closing])))))
      value after := by
  refine
    (gives_primary_iff setting).mpr
      ⟨opening, after.preceded (tokens ++ [closing]), rfl,
        Or.inr (Or.inl ⟨opens, isShallow, closing, after.deeper, closes, rfl, ?_⟩)⟩
  rw [Cursor.preceded_append]
  exact innerGives

theorem gives_signed_of_primary
    (starts : StartsAt .primary used)
    (gives :
      Gives
        (primary setting context (after.preceded used)
          (nestedFrom setting (after.preceded used)))
        value after) :
    Gives
      (signed setting context (after.preceded used)
        (nestedFrom setting (after.preceded used)))
      value after := by
  refine (gives_signed_iff setting).mpr (Or.inl ⟨?_, gives⟩)
  refine declines_of_startsAt setting starts (exactly_eq_none_of_opening ?_)
  simp [openingStrength?, Level.strength]

theorem gives_signed_of_minus
    {sign : Token}
    (isMinus : sign.content = .arithmetic .subtract)
    (isShallow : after.depth < setting.maxDepth)
    (gives :
      Gives
        (signed setting .value (after.deeper.preceded used)
          (nestedFrom setting (after.deeper.preceded used)))
        value after.deeper) :
    Gives
      (signed setting context (after.preceded (sign :: used))
        (nestedFrom setting (after.preceded (sign :: used))))
      (negated value) after :=
  (gives_signed_iff setting).mpr
    (Or.inr
      ⟨sign, after.preceded used, after.deeper, value, rfl, isMinus, isShallow, rfl, rfl,
        gives⟩)

theorem gives_comparison_of_climbs
    (endsWell : setting.ending = .ok ending)
    (climbs : Climbs setting 0 context (after.preceded used) value after)
    (binds : BindsBelow 4 after) :
    Gives
      (comparison setting context (after.preceded used)
        (nestedFrom setting (after.preceded used)))
      value after := by
  obtain ⟨first, place, firstGives, _⟩ := id climbs
  obtain ⟨start, ahead⟩ := exists_peek_of_gives setting firstGives
  refine
    (gives_comparison_iff setting).mpr ⟨start, value, after, ahead, climbs, Or.inr ⟨?_, ?_⟩⟩
  · refine declines_of_bindsBelow setting endsWell binds fun token less => ?_
    rw [comparison?_eq_none_iff]
    intro operator equal
    rw [equal] at less
    exact absurd less (by simp [bindingStrength])
  · refine (gives_testAfter_iff setting).mpr (Or.inl ⟨?_, ?_, rfl, rfl⟩)
    · exact
        declines_of_bindsBelow setting endsWell binds
          (exactly_eq_none_of_bindsBelow (Nat.le_refl 4))
    · refine declines_of_bindsBelow setting endsWell binds fun token less => ?_
      rw [test?_eq_none_iff]
      constructor
      · intro equal
        rw [equal] at less
        exact absurd less (by simp [bindingStrength])
      · intro equal
        rw [equal] at less
        exact absurd less (by simp [bindingStrength])

theorem gives_comparison_of_compared
    {sign : Token} {operator : Comparison} {rightTokens : List Token}
    {left right : Expression}
    (leftClimbs :
      Climbs setting 0 context
        ((after.preceded (sign :: rightTokens)).preceded used) left
        (after.preceded (sign :: rightTokens)))
    (isSign : sign.content = .comparison operator)
    (rightClimbs : Climbs setting 0 .value (after.preceded rightTokens) right after) :
    Gives
      (comparison setting context (after.preceded (used ++ sign :: rightTokens))
        (nestedFrom setting (after.preceded (used ++ sign :: rightTokens))))
      (.binary (.comparison operator) left right) after := by
  rw [Cursor.preceded_append]
  obtain ⟨first, place, firstGives, _⟩ := id leftClimbs
  obtain ⟨start, ahead⟩ := exists_peek_of_gives setting firstGives
  exact
    (gives_comparison_iff setting).mpr
      ⟨start, left, _, ahead, leftClimbs,
        Or.inl ⟨sign, operator, after.preceded rightTokens, right, rfl, isSign, rfl, rightClimbs⟩⟩

/-- The first token of a test is a keyword that binds like a comparison. -/
theorem exists_keyword_of_testPhrase
    {name : String} {tokens : List Token}
    (test : TestPhrase name tokens value) :
    ∃ (token : Token) (rest : List Token) (word : Keyword),
      tokens = token :: rest ∧ token.content = .keyword word ∧
        bindingStrength token.content = 4 := by
  cases test with
  | membership mayNegate isIn opens literals closes =>
      cases mayNegate with
      | plain => exact ⟨_, _, _, rfl, isIn, by rw [isIn]; rfl⟩
      | negated isNot => exact ⟨_, _, _, rfl, isNot, by rw [isNot]; rfl⟩
  | pattern mayNegate isLike means =>
      cases mayNegate with
      | plain => exact ⟨_, _, _, rfl, isLike, by rw [isLike]; rfl⟩
      | negated isNot => exact ⟨_, _, _, rfl, isNot, by rw [isNot]; rfl⟩

theorem gives_comparison_of_tested
    {name : String} {tokens : List Token}
    (climbs :
      Climbs setting 0 context ((after.preceded tokens).preceded used) (.field name)
        (after.preceded tokens))
    (test : TestPhrase name tokens value) :
    Gives
      (comparison setting context (after.preceded (used ++ tokens))
        (nestedFrom setting (after.preceded (used ++ tokens))))
      value after := by
  rw [Cursor.preceded_append]
  obtain ⟨first, place, firstGives, _⟩ := id climbs
  obtain ⟨start, ahead⟩ := exists_peek_of_gives setting firstGives
  refine
    (gives_comparison_iff setting).mpr
      ⟨start, .field name, after.preceded tokens, ahead, climbs, Or.inr ⟨?_, ?_⟩⟩
  · obtain ⟨token, rest, word, rfl, isWord, _⟩ := exists_keyword_of_testPhrase test
    rw [Cursor.preceded_cons]
    refine (declines_preceded_iff setting).mpr (comparison?_eq_none_iff.mpr ?_)
    simp [isWord]
  · exact (gives_testAfter_iff setting).mpr (Or.inr ⟨name, tokens, rfl, rfl, test⟩)

theorem gives_negation_of_comparison
    (starts : StartsAt .comparison used)
    (isCondition : context = .condition → value.isCondition = true)
    (gives :
      Gives
        (comparison setting context (after.preceded used)
          (nestedFrom setting (after.preceded used)))
        value after) :
    Gives
      (negation setting context (after.preceded used)
        (nestedFrom setting (after.preceded used)))
      value after := by
  refine (gives_negation_iff setting).mpr (Or.inr ⟨?_, isCondition, gives⟩)
  refine declines_of_startsAt setting starts (exactly_eq_none_of_opening ?_)
  simp [openingStrength?, Level.strength]

theorem gives_negation_of_not
    {word : Token}
    (isNot : word.content = .keyword .notWord)
    (isShallow : after.depth < setting.maxDepth)
    (gives :
      Gives
        (negation setting context.afterNot (after.deeper.preceded used)
          (nestedFrom setting (after.deeper.preceded used)))
        value after.deeper) :
    Gives
      (negation setting context (after.preceded (word :: used))
        (nestedFrom setting (after.preceded (word :: used))))
      (.unary .not value) after :=
  (gives_negation_iff setting).mpr
    (Or.inl
      ⟨word, after.preceded used, after.deeper, value, rfl, isNot, isShallow, rfl, rfl,
        gives⟩)

theorem gives_argument_of_disjunction
    (starts : StartsAt .disjunction used)
    (gives : Gives (expression setting .value (after.preceded used)) value after) :
    Gives
      (argument setting (after.preceded used)
        (nestedExpression setting ((after.preceded used).size + 1)))
      value after := by
  obtain ⟨token, rest, strength, rfl, opens, isLoose⟩ := starts
  refine
    @gives_argument_of_expression setting (after.preceded rest) after token value
      ?_ ?_ ?_ gives
  · intro equal
    rw [equal] at opens
    obtain rfl : 0 = strength := by simpa [openingStrength?] using opens
    exact absurd isLoose (by simp [Level.strength])
  · intro equal
    simp [equal, openingStrength?] at opens
  · intro equal
    simp [equal, openingStrength?] at opens

end Levels

/-! ## Expressions -/

/-- What is shown of a phrase of a level in front of a place. -/
def Finds (setting : Setting) (context : Context) :
    Level → List Token → Expression → Cursor → Prop
  | .argument, used, value, after =>
      Gives
        (argument setting (after.preceded used)
          (nestedExpression setting ((after.preceded used).size + 1)))
        value after
  | .disjunction, used, value, after =>
      LeadsChain setting .or context
        (chain setting .and context (negation setting context)) used value after
  | .conjunction, used, value, after =>
      LeadsChain setting .and context (negation setting context) used value after
  | .negation, used, value, after =>
      Gives
        (negation setting context (after.preceded used)
          (nestedFrom setting (after.preceded used)))
        value after
  | .comparison, used, value, after =>
      Gives
        (comparison setting context (after.preceded used)
          (nestedFrom setting (after.preceded used)))
        value after
  | .sum, used, value, after => LeadsClimb setting context .sum used value after
  | .product, used, value, after => LeadsClimb setting context .product used value after
  | .signed, used, value, after =>
      Gives
        (signed setting context (after.preceded used)
          (nestedFrom setting (after.preceded used)))
        value after
  | .primary, used, value, after =>
      Gives
        (primary setting context (after.preceded used)
          (nestedFrom setting (after.preceded used)))
        value after

/-- The shape that a context asks of an expression at a level. -/
def Level.Admits (context : Context) (expression : Expression) : Level → Prop
  | argument => context = .value
  | disjunction => context.Admits expression
  | conjunction => context.Admits expression
  | negation => context.Admits expression
  | comparison => context.inGroup.Admits expression
  | sum => context.inGroup.Admits expression
  | product => context.inGroup.Admits expression
  | signed => context.inGroup.Admits expression
  | primary => context.inGroup.Admits expression

theorem Level.admits_tighter
    {context : Context} {expression : Expression} {level : Level}
    (admits : level.Admits context expression) :
    level.tighter.Admits context expression := by
  cases level with
  | argument =>
      obtain rfl : context = .value := admits
      trivial
  | negation => exact Context.inGroup_admits admits
  | _ => exact admits

/-- Where any value may stand, every phrase of every level may. -/
theorem Level.admits_value (level : Level) (expression : Expression) :
    level.Admits .value expression := by
  cases level with
  | argument => rfl
  | _ => trivial

theorem Context.inGroup_admits_left
    {context : Context} {whole left : Expression}
    (admits : context.inGroup.Admits whole)
    (joins : whole.joinsConditions = left.joinsConditions) :
    context.inGroup.Admits left := by
  cases context with
  | value => trivial
  | condition => exact joins.symm.trans admits
  | group => exact joins.symm.trans admits

theorem BindsBelow.deeper {limit : Nat} {cursor : Cursor}
    (binds : BindsBelow limit cursor) :
    BindsBelow limit cursor.deeper :=
  fun _ _ equal => binds (Cursor.eq_preceded_of_deeper_eq equal)

section Expressions

variable {context : Context} {used : List Token} {value : Expression} {after : Cursor}

theorem gives_expression_of_finds
    (endsWell : setting.ending = .ok ending)
    (finds : Finds setting context .disjunction used value after)
    (binds : BindsBelow 1 after) :
    Gives (expression setting context (after.preceded used)) value after := by
  rw [expression_eq_disjunction]
  exact gives_chain_of_leadsChain endsWell finds binds

/-- A phrase of a tighter level is found by the reader of a looser one. -/
theorem finds_loosen
    {level : Level}
    (endsWell : setting.ending = .ok ending)
    (starts : StartsAt level.tighter used)
    (admits : level.Admits context value)
    (binds : BindsBelow level.limit after)
    (finds : Finds setting context level.tighter used value after) :
    Finds setting context level used value after := by
  cases level with
  | argument =>
      obtain rfl : context = .value := admits
      exact
        gives_argument_of_disjunction starts
          (gives_expression_of_finds endsWell finds binds)
  | disjunction =>
      exact leadsChain_of_operand (gives_chain_of_leadsChain endsWell finds binds)
  | conjunction => exact leadsChain_of_operand finds
  | negation =>
      refine gives_negation_of_comparison starts ?_ finds
      rintro rfl
      exact admits.1
  | comparison =>
      exact
        gives_comparison_of_climbs endsWell
          (climbs_of_leadsClimb endsWell finds (Nat.zero_le _) binds
            (Or.inr (by simp [Level.limit])))
          binds
  | sum => exact finds.loosen (by simp [Level.strength])
  | product => exact leadsClimb_of_signed finds
  | signed => exact gives_signed_of_primary starts finds
  | primary => exact finds

theorem admits_of_connected
    {connective : Connective} {left right : Expression}
    (admits : context.Admits (.binary (.logical connective) left right)) :
    (context.Admits left ∧ context.Admits right) ∧
      (context = .value ∨ left.isCondition = true) ∧
      (context = .value ∨ right.isCondition = true) := by
  cases context with
  | value => exact ⟨⟨trivial, trivial⟩, Or.inl rfl, Or.inl rfl⟩
  | condition =>
      simp only [Context.Admits, Expression.joinsConditions, Bool.and_eq_true] at admits ⊢
      obtain ⟨_, ⟨⟨leftHolds, rightHolds⟩, leftJoins⟩, rightJoins⟩ := admits
      exact
        ⟨⟨⟨leftHolds, leftJoins⟩, rightHolds, rightJoins⟩, Or.inr leftHolds,
          Or.inr rightHolds⟩
  | group =>
      simp only [Context.Admits, Expression.joinsConditions, Bool.and_eq_true] at admits ⊢
      obtain ⟨⟨⟨leftHolds, rightHolds⟩, leftJoins⟩, rightJoins⟩ := admits
      exact ⟨⟨leftJoins, rightJoins⟩, Or.inr leftHolds, Or.inr rightHolds⟩

theorem finds_connected
    {connective : Connective} {rightTokens : List Token} {word : Token}
    {left right : Expression}
    (endsWell : setting.ending = .ok ending)
    (admits :
      (Level.ofConnective connective).Admits context
        (.binary (.logical connective) left right))
    (leftFinds :
      Finds setting context (.ofConnective connective) used left
        (after.preceded (word :: rightTokens)))
    (isWord : word.content = .keyword (Level.connectiveKeyword connective))
    (rightFinds :
      Finds setting context (Level.ofConnective connective).tighter rightTokens right after)
    (binds : BindsBelow (Level.ofConnective connective).limit after) :
    Finds setting context (.ofConnective connective) (used ++ word :: rightTokens)
      (.binary (.logical connective) left right) after := by
  cases connective with
  | or =>
      obtain ⟨_, leftHolds, rightHolds⟩ := admits_of_connected admits
      exact
        leadsChain_connected leftFinds isWord
          (gives_chain_of_leadsChain endsWell rightFinds binds) leftHolds rightHolds
  | and =>
      obtain ⟨_, leftHolds, rightHolds⟩ := admits_of_connected admits
      exact leadsChain_connected leftFinds isWord rightFinds leftHolds rightHolds

theorem admits_of_not
    {operand : Expression}
    (admits : context.Admits (.unary .not operand)) :
    context.afterNot.Admits operand := by
  cases context with
  | value => trivial
  | condition =>
      obtain ⟨_, joins⟩ := admits
      simp only [Expression.joinsConditions, Bool.and_eq_true] at joins
      exact joins
  | group =>
      simp only [Context.Admits, Expression.joinsConditions, Bool.and_eq_true] at admits
      exact admits

/-- A list of arguments that are found is read between its parentheses. -/
theorem gives_arguments_of_separated
    {closing : Token} {values : List Expression} {nesting : Nat}
    (phrases : Arguments nesting used values)
    (separated :
      Separated
        (fun tokens value =>
          ∀ {mark : Token} {next : Cursor},
            next.depth = after.depth →
              mark.content = .comma ∨ mark.content = .rightParenthesis →
                Finds setting .value .argument tokens value (next.preceded [mark]))
        used values)
    (closes : closing.content = .rightParenthesis) :
    Gives
      (arguments setting (after.preceded (used ++ [closing]))
        (nestedExpression setting ((after.preceded (used ++ [closing])).size + 1)))
      values after := by
  have starts : StartsAt .argument used := by
    cases phrases with
    | last item => exact item.startsAt
    | more item _ _ => exact item.startsAt.append _
  rw [Cursor.preceded_append]
  refine (gives_arguments_iff setting).mpr (Or.inr ⟨?_, ?_⟩)
  · refine declines_of_startsAt setting starts (exactly_eq_none_of_opening ?_)
    simp [openingStrength?]
  · exact
      gives_closedList_of_separated setting
        (fun _ atDepth isMark item => item atDepth isMark) separated closes rfl _

theorem bindingStrength_mark {mark : Token} {limit : Nat}
    (isMark : mark.content = .comma ∨ mark.content = .rightParenthesis)
    (isPositive : 0 < limit) :
    bindingStrength mark.content < limit := by
  rcases isMark with isComma | closes
  · rw [isComma]
    exact isPositive
  · rw [closes]
    exact isPositive

theorem bindingStrength_connective (connective : Connective) :
    bindingStrength (.keyword (Level.connectiveKeyword connective)) <
      (Level.ofConnective connective).limit := by
  cases connective <;>
    simp [bindingStrength, Level.connectiveKeyword, Level.ofConnective, Level.limit]

theorem bindingStrength_arithmetic (operator : Arithmetic) :
    bindingStrength (.arithmetic operator) < (Level.ofArithmetic operator).limit := by
  cases operator <;> simp [bindingStrength, Arithmetic.precedence, Level.ofArithmetic, Level.limit]

theorem testBinds_below
    {name : String} {tokens : List Token}
    (test : TestPhrase name tokens value) :
    BindsBelow 5 (after.preceded tokens) := by
  obtain ⟨token, rest, word, rfl, _, strength⟩ := exists_keyword_of_testPhrase test
  rw [bindsBelow_preceded_iff, strength]
  omega

theorem negated_eq_opposite
    {number opposite : Number}
    (isOpposite : number.negate? = some opposite) :
    negated (.literal (.number number)) = .literal (.number opposite) := by
  simp [negated, isOpposite]

theorem negated_eq_negate
    (hasNoOpposite :
      ∀ number : Number, value = .literal (.number number) → number.negate? = none) :
    negated value = .unary .negate value := by
  unfold negated
  split
  · rename_i number
    simp [hasNoOpposite number rfl]
  · rfl

theorem finds_compared
    {operator : Comparison} {sign : Token} {rightTokens : List Token}
    {left right : Expression}
    (endsWell : setting.ending = .ok ending)
    (leftFinds :
      Finds setting context .sum used left (after.preceded (sign :: rightTokens)))
    (isSign : sign.content = .comparison operator)
    (rightFinds : Finds setting .value .sum rightTokens right after)
    (binds : BindsBelow 4 after) :
    Finds setting context .comparison (used ++ sign :: rightTokens)
      (.binary (.comparison operator) left right) after := by
  have signBinds : BindsBelow 5 (after.preceded (sign :: rightTokens)) := by
    rw [bindsBelow_preceded_iff, isSign]
    simp [bindingStrength]
  refine
    gives_comparison_of_compared
      (climbs_of_leadsClimb endsWell leftFinds (Nat.zero_le _) signBinds
        (Or.inr (Nat.le_refl 5)))
      isSign
      (climbs_of_leadsClimb endsWell rightFinds (Nat.zero_le _) binds (Or.inr ?_))
  omega

theorem finds_tested
    {name : String} {tokens : List Token}
    (endsWell : setting.ending = .ok ending)
    (nameFinds : Finds setting context .sum used (.field name) (after.preceded tokens))
    (test : TestPhrase name tokens value) :
    Finds setting context .comparison (used ++ tokens) value after := by
  refine
    gives_comparison_of_tested
      (climbs_of_leadsClimb endsWell nameFinds (Nat.zero_le _) ?_ (Or.inr (Nat.le_refl 5)))
      test
  exact testBinds_below test

theorem finds_ofArithmetic_eq (operator : Arithmetic) :
    Finds setting context (.ofArithmetic operator) used value after =
      LeadsClimb setting context (.ofArithmetic operator) used value after := by
  cases operator <;> rfl

theorem leadsClimb_of_finds_tighter
    {operator : Arithmetic}
    (finds : Finds setting context (Level.ofArithmetic operator).tighter used value after) :
    LeadsClimb setting context (Level.ofArithmetic operator).tighter used value after := by
  cases operator with
  | add => exact finds
  | subtract => exact finds
  | multiply => exact leadsClimb_of_signed finds
  | divide => exact leadsClimb_of_signed finds

theorem finds_computed
    {operator : Arithmetic} {sign : Token} {rightTokens : List Token}
    {left right : Expression}
    (endsWell : setting.ending = .ok ending)
    (leftFinds :
      Finds setting context (.ofArithmetic operator) used left
        (after.preceded (sign :: rightTokens)))
    (isSign : sign.content = .arithmetic operator)
    (rightFinds :
      Finds setting .value (Level.ofArithmetic operator).tighter rightTokens right after)
    (binds : BindsBelow (Level.ofArithmetic operator).limit after) :
    Finds setting context (.ofArithmetic operator) (used ++ sign :: rightTokens)
      (.binary (.arithmetic operator) left right) after := by
  rw [finds_ofArithmetic_eq] at leftFinds ⊢
  exact
    leadsClimb_computed endsWell leftFinds isSign
      (leadsClimb_of_finds_tighter rightFinds) binds

theorem finds_call
    {token opening closing : Token} {name : String} {values : List Expression}
    (isNoBoolean : token.boolean? = none)
    (means : token.name? = some name)
    (opens : opening.content = .leftParenthesis)
    (isShallow : after.depth < setting.maxDepth)
    (argumentsGive :
      Gives
        (arguments setting (after.deeper.preceded (used ++ [closing]))
          (nestedExpression setting
            ((after.deeper.preceded (used ++ [closing])).size + 1)))
        values after.deeper) :
    Finds setting context .primary (token :: opening :: (used ++ [closing]))
      (.call name values) after :=
  gives_primary_of_arguments isNoBoolean means opens isShallow argumentsGive

end Expressions

mutual

/-- Every phrase is found, unless what follows binds into it or its nesting is too deep. -/
theorem Phrase.finds {nesting : Nat} {level : Level} {tokens : List Token}
    {expression : Expression} (endsWell : setting.ending = .ok ending) :
    Phrase nesting level tokens expression →
      ∀ (context : Context) (after : Cursor),
        level.Admits context expression →
          nesting + after.depth ≤ setting.maxDepth →
            BindsBelow level.limit after →
              Finds setting context level tokens expression after
  | .loosen inner, context, after, admits, isWithin, binds =>
      finds_loosen endsWell inner.startsAt admits binds
        (inner.finds endsWell context after (Level.admits_tighter admits) isWithin
          (binds.mono level.limit_le_tighter))
  | .star isStar, _, _, _, _, _ => gives_argument_of_star setting isStar
  | @Phrase.connected _ connective _ _ word leftValue rightValue left isWord right,
      context, after, admits, isWithin, binds => by
      have parts :
          (Level.ofConnective connective).Admits context leftValue ∧
            (Level.ofConnective connective).tighter.Admits context rightValue := by
        cases connective with
        | or => exact (admits_of_connected admits).1
        | and => exact (admits_of_connected admits).1
      refine
        finds_connected endsWell admits
          (left.finds endsWell context _ parts.1 isWithin ?_) isWord
          (right.finds endsWell context after parts.2 isWithin
            (binds.mono (Level.limit_le_tighter _)))
          binds
      rw [bindsBelow_preceded_iff, isWord]
      exact bindingStrength_connective connective
  | .negation isNot inner, context, after, admits, isWithin, binds =>
      gives_negation_of_not isNot (by omega)
        (inner.finds endsWell context.afterNot after.deeper (admits_of_not admits)
          (by rw [Cursor.depth_deeper]; omega) binds.deeper)
  | @Phrase.compared _ _ _ _ sign _ _ left isSign right, context, after, admits, isWithin,
      binds => by
      refine
        finds_compared endsWell
          (left.finds endsWell context _ (Context.inGroup_admits_left admits rfl)
            isWithin ?_)
          isSign
          (right.finds endsWell .value after trivial isWithin
            (binds.mono (by simp [Level.limit])))
          binds
      rw [bindsBelow_preceded_iff, isSign]
      simp [bindingStrength, Level.limit]
  | .tested left test, context, after, _, isWithin, _ =>
      finds_tested endsWell
        (left.finds endsWell context _ (Context.admits_of_joinsConditions rfl) isWithin
          ((testBinds_below test).mono (by simp [Level.limit])))
        test
  | @Phrase.computed _ operator _ _ sign leftValue _ left isSign right, context, after,
      admits, isWithin, binds => by
      have leftAdmits : (Level.ofArithmetic operator).Admits context leftValue := by
        cases operator <;> exact Context.inGroup_admits_left admits rfl
      refine
        finds_computed endsWell (left.finds endsWell context _ leftAdmits isWithin ?_)
          isSign
          (right.finds endsWell .value after (Level.admits_value _ _) isWithin
            (binds.mono (Level.limit_le_tighter _)))
          binds
      rw [bindsBelow_preceded_iff, isSign]
      exact bindingStrength_arithmetic operator
  | .opposite isMinus inner isOpposite, context, after, _, isWithin, binds => by
      have negates := negated_eq_opposite isOpposite
      rw [← negates]
      exact
        gives_signed_of_minus isMinus (by omega)
          (inner.finds endsWell .value after.deeper trivial
            (by rw [Cursor.depth_deeper]; omega) binds.deeper)
  | .minus isMinus inner hasNoOpposite, context, after, _, isWithin, binds => by
      have negates := negated_eq_negate hasNoOpposite
      rw [← negates]
      exact
        gives_signed_of_minus isMinus (by omega)
          (inner.finds endsWell .value after.deeper trivial
            (by rw [Cursor.depth_deeper]; omega) binds.deeper)
  | .number means, _, _, _, _, _ => gives_primary_of_literalPhrase (.number means)
  | .string means, _, _, _, _, _ => gives_primary_of_literalPhrase (.string means)
  | .boolean means, _, _, _, _, _ => gives_primary_of_literalPhrase (.boolean means)
  | .field isNoBoolean means, _, _, _, _, binds =>
      gives_primary_of_name endsWell isNoBoolean means binds
  | .emptyCall isNoBoolean means opens closes, _, after, _, isWithin, _ =>
      gives_primary_of_arguments isNoBoolean means opens (by omega)
        ((gives_arguments_iff setting).mpr (Or.inl ⟨_, rfl, closes, rfl⟩))
  | .call isNoBoolean means opens inner closes, _, after, _, isWithin, _ =>
      finds_call isNoBoolean means opens (by omega)
        (gives_arguments_of_separated inner
          (inner.finds endsWell after.deeper (by rw [Cursor.depth_deeper]; omega)) closes)
  | .group opens inner closes, context, after, admits, isWithin, _ => by
      refine
        gives_primary_of_group opens closes (by omega)
          (gives_expression_of_finds endsWell
            (inner.finds endsWell context.inGroup _ admits
              (by rw [Cursor.depth_preceded, Cursor.depth_deeper]; omega) ?_)
            ?_)
      · have isPositive : 0 < Level.limit .disjunction := by decide
        exact bindsBelow_preceded_iff.mpr (bindingStrength_mark (Or.inr closes) isPositive)
      · exact bindsBelow_preceded_iff.mpr (bindingStrength_mark (Or.inr closes) Nat.one_pos)

theorem Arguments.finds {nesting : Nat} {tokens : List Token} {values : List Expression}
    (endsWell : setting.ending = .ok ending) :
    Arguments nesting tokens values →
      ∀ (after : Cursor), nesting + after.depth ≤ setting.maxDepth →
        Separated
          (fun tokens value =>
            ∀ {mark : Token} {next : Cursor},
              next.depth = after.depth →
                mark.content = .comma ∨ mark.content = .rightParenthesis →
                  Finds setting .value .argument tokens value (next.preceded [mark]))
          tokens values
  | .last item, after, isWithin => by
      refine .last fun atDepth isMark => ?_
      refine item.finds endsWell .value _ rfl (by rw [Cursor.depth_preceded]; omega) ?_
      exact bindsBelow_preceded_iff.mpr (bindingStrength_mark isMark Nat.one_pos)
  | .more item isComma rest, after, isWithin => by
      refine .more (fun atDepth isMark => ?_) isComma (rest.finds endsWell after isWithin)
      refine item.finds endsWell .value _ rfl (by rw [Cursor.depth_preceded]; omega) ?_
      exact bindsBelow_preceded_iff.mpr (bindingStrength_mark isMark Nat.one_pos)

end

section Main

variable {context : Context} {used : List Token} {value : Expression} {after : Cursor}

/-- A phrase with the shape that its context asks for is read as an expression. -/
theorem gives_expression_of_phrase
    {nesting : Nat}
    (endsWell : setting.ending = .ok ending)
    (phrase : Phrase nesting .disjunction used value)
    (admits : context.Admits value)
    (isWithin : nesting + after.depth ≤ setting.maxDepth)
    (binds : BindsBelow 1 after) :
    Gives (expression setting context (after.preceded used)) value after :=
  gives_expression_of_finds endsWell
    (phrase.finds endsWell context after admits isWithin
      (binds.mono (by simp [Level.limit])))
    binds

/-- A phrase of sums is read as arithmetic. -/
theorem gives_arithmetic_of_phrase
    {nesting : Nat}
    (endsWell : setting.ending = .ok ending)
    (phrase : Phrase nesting .sum used value)
    (isWithin : nesting + after.depth ≤ setting.maxDepth)
    (binds : BindsBelow 5 after) :
    Gives
      (arithmetic setting .value (after.preceded used)
        (nestedFrom setting (after.preceded used)))
      value after :=
  (gives_arithmetic_iff setting).mpr
    (climbs_of_leadsClimb endsWell
      (phrase.finds endsWell .value after trivial isWithin
        (binds.mono (by simp [Level.limit])))
      (Nat.zero_le _) binds (Or.inr (Nat.le_refl 5)))

end Main

end EventQuery.Grammar
