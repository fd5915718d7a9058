import EventQuery.Grammar.Query
import Mathlib.Data.List.Forall2

/-!
# Two runs side by side

The readers run twice, on tokens that say the same and may be written and laid
out differently, the second time with at least as much nesting allowed.
`TwoRuns.Agree` says how the outcomes of such runs compare: both give values
that correspond, or both give an error of the same kind at corresponding
tokens, or the first run alone gets too deep.

Here are the relation and the facts about the combinators from which readers
are built.  What is shown of a reader in the modules after this one follows its
definition, combinator by combinator.
-/

namespace EventQuery

/--
Two tokens say the same.  Where a token may stand for a name, it has to be
spelled the same way too.
-/
structure Token.Agrees (first second : Token) : Prop where
  content : first.content = second.content
  text : first.name?.isSome = true → first.text = second.text

namespace Token.Agrees

variable {first second : Token}

theorem refl (token : Token) : token.Agrees token :=
  ⟨rfl, fun _ => rfl⟩

theorem name? (agree : first.Agrees second) : first.name? = second.name? := by
  obtain ⟨content, text⟩ := agree
  unfold Token.name? at text ⊢
  rw [← content]
  cases means : first.content with
  | keyword keyword =>
      rw [means] at text
      cases isReserved : keyword.isReserved with
      | true => simp [isReserved]
      | false => simpa [isReserved] using text
  | _ => rfl

theorem string? (agree : first.Agrees second) : first.string? = second.string? := by
  unfold Token.string?
  rw [agree.content]

theorem number? (agree : first.Agrees second) : first.number? = second.number? := by
  unfold Token.number?
  rw [agree.content]

theorem boolean? (agree : first.Agrees second) : first.boolean? = second.boolean? := by
  unfold Token.boolean?
  rw [agree.content]

theorem timeUnit? (agree : first.Agrees second) : first.timeUnit? = second.timeUnit? := by
  unfold Token.timeUnit?
  rw [agree.content]

theorem amount? (agree : first.Agrees second) : first.amount? = second.amount? := by
  unfold Token.amount?
  rw [agree.content]

end Token.Agrees

namespace Grammar

/--
Two runs of the readers: their settings, and which of their tokens stand at the
same place.  Both runs come to tokens that correspond, or to the same error.
-/
structure TwoRuns where
  first : Setting
  second : Setting
  /-- Whether two tokens, one of each run, stand at the same place. -/
  Twins : Token → Token → Prop
  agrees : ∀ {token other : Token}, Twins token other → token.Agrees other
  endings :
    (∃ token other, first.ending = .ok token ∧ second.ending = .ok other ∧
        Twins token other) ∨
      ∃ error, first.ending = .error error ∧ second.ending = .error error
  isTighter : first.maxDepth ≤ second.maxDepth

namespace TwoRuns

variable (runs : TwoRuns)

/-- Faults of a point in time that are about corresponding tokens. -/
inductive FaultsAgree : TimeFault → TimeFault → Prop where
  | notAPoint {token other : Token} (clause : Clause)
      (twins : runs.Twins token other) :
      FaultsAgree (.notAPoint clause token) (.notAPoint clause other)
  | notAnAmount {token other : Token}
      (twins : runs.Twins token other) :
      FaultsAgree (.notAnAmount token) (.notAnAmount other)
  | notAUnit {token other : Token}
      (twins : runs.Twins token other) :
      FaultsAgree (.notAUnit token) (.notAUnit other)
  | missingAgo {token other unit otherUnit : Token} (amount : UInt64)
      (units : runs.Twins unit otherUnit)
      (twins : runs.Twins token other) :
      FaultsAgree (.missingAgo amount unit token) (.missingAgo amount otherUnit other)

/-- Errors of one kind that stand at corresponding tokens, or where the tokens end. -/
inductive ErrorsAgree : QueryError → QueryError → Prop where
  | ending {error : QueryError}
      (ends : runs.first.ending = .error error) :
      ErrorsAgree error error
  | unexpected {token other : Token} (expected : List Expectation)
      (twins : runs.Twins token other) :
      ErrorsAgree (.unexpected token expected) (.unexpected other expected)
  | condition {token other : Token} (expression : Expression)
      (twins : runs.Twins token other) :
      ErrorsAgree (notACondition token expression) (notACondition other expression)
  | time {token other : Token} {fault otherFault : TimeFault}
      (twins : runs.Twins token other)
      (faults : runs.FaultsAgree fault otherFault) :
      ErrorsAgree (.time token.position fault) (.time other.position otherFault)

/--
How the outcomes of two runs compare: values that correspond, errors that
agree, or anything if the first run gets deeper than it is allowed to and the
second one is allowed more.
-/
inductive Agree {α β : Type} (Same : α → β → Prop) :
    Except QueryError α → Except QueryError β → Prop where
  | ok {value : α} {other : β}
      (same : Same value other) :
      Agree Same (.ok value) (.ok other)
  | error {error other : QueryError}
      (errors : runs.ErrorsAgree error other) :
      Agree Same (.error error) (.error other)
  | tooDeep {token : Token} (outcome : Except QueryError β)
      (isLess : runs.first.maxDepth < runs.second.maxDepth) :
      Agree Same (.error (.unexpected token [.nestingAtMost runs.first.maxDepth])) outcome

/-- Two places with corresponding tokens ahead, at one depth. -/
structure PlacesAgree (place other : Cursor) : Prop where
  tokens : List.Forall₂ runs.Twins place.tokens other.tokens
  depth : place.depth = other.depth

/-- Two values that correspond, and places behind them that agree. -/
structure ParsedAgree {α β : Type} {bound otherBound : Nat} (Same : α → β → Prop)
    (parsed : Parsed α bound) (other : Parsed β otherBound) : Prop where
  value : Same parsed.value other.value
  places : runs.PlacesAgree parsed.cursor other.cursor

/-- Two readers that agree and give the same value. -/
abbrev ReadAlike {α : Type} {bound otherBound : Nat}
    (outcome : Outcome α bound) (other : Outcome α otherBound) : Prop :=
  runs.Agree (runs.ParsedAgree Eq) outcome other

/-- Two ways to accept tokens that take corresponding tokens for corresponding values. -/
def AcceptAlike {α β : Type} (Same : α → β → Prop)
    (accept : Token → Option α) (other : Token → Option β) : Prop :=
  ∀ token twin : Token, runs.Twins token twin →
    Option.Rel Same (accept token) (other twin)

variable {runs}

/-! ## Places -/

section Places

variable {place other : Cursor}

theorem PlacesAgree.deeper (places : runs.PlacesAgree place other) :
    runs.PlacesAgree place.deeper other.deeper :=
  ⟨places.tokens, congrArg (· + 1) places.depth⟩

theorem PlacesAgree.shallower (places : runs.PlacesAgree place other) :
    runs.PlacesAgree place.shallower other.shallower :=
  ⟨places.tokens, congrArg (· - 1) places.depth⟩

end Places

/-! ## Outcomes -/

section Outcomes

variable {α β γ δ : Type} {bound otherBound wide otherWide : Nat}
  {Same : α → β → Prop} {After : γ → δ → Prop}

/-- Runs that agree so far and go on in the same way from what they have still agree. -/
theorem Agree.bind
    {outcome : Except QueryError α} {other : Except QueryError β}
    {next : α → Except QueryError γ} {otherNext : β → Except QueryError δ}
    (agree : runs.Agree Same outcome other)
    (goOn : ∀ {value : α} {otherValue : β}, Same value otherValue →
      runs.Agree After (next value) (otherNext otherValue)) :
    runs.Agree After (outcome >>= next) (other >>= otherNext) := by
  cases agree with
  | ok same => exact goOn same
  | error errors => exact .error errors
  | tooDeep _ isLess => exact .tooDeep _ isLess

/-- Seeing a result under wider bounds changes nothing. -/
theorem Agree.widen
    {outcome : Outcome α bound} {other : Outcome β otherBound}
    {isWider : bound ≤ wide} {isOtherWider : otherBound ≤ otherWide}
    (agree : runs.Agree (runs.ParsedAgree Same) outcome other) :
    runs.Agree (runs.ParsedAgree Same) (outcome.map (·.widen isWider))
      (other.map (·.widen isOtherWider)) := by
  cases agree with
  | ok same => exact .ok ⟨same.value, same.places⟩
  | error errors => exact .error errors
  | tooDeep _ isLess => exact .tooDeep _ isLess

theorem Agree.before
    {parsed : Parsed γ bound} {otherParsed : Parsed δ otherBound}
    {outcome : Outcome α parsed.cursor.size} {other : Outcome β otherParsed.cursor.size}
    (agree : runs.Agree (runs.ParsedAgree Same) outcome other) :
    runs.Agree (runs.ParsedAgree Same) (parsed.before outcome) (otherParsed.before other) :=
  agree.widen

theorem Agree.beforeRest
    {parsed : Parsed γ bound} {otherParsed : Parsed δ otherBound}
    {outcome : Outcome α (parsed.cursor.size + 1)}
    {other : Outcome β (otherParsed.cursor.size + 1)}
    (agree : runs.Agree (runs.ParsedAgree Same) outcome other) :
    runs.Agree (runs.ParsedAgree Same) (parsed.beforeRest outcome)
      (otherParsed.beforeRest other) :=
  agree.widen

theorem Agree.relaxed
    {outcome : Outcome α bound} {other : Outcome β otherBound}
    (agree : runs.Agree (runs.ParsedAgree Same) outcome other) :
    runs.Agree (runs.ParsedAgree Same) outcome.relaxed other.relaxed :=
  agree.widen

/-- Readers that only make something else of what another reader gives. -/
theorem Agree.mapped
    {outcome : Outcome α bound} {other : Outcome β otherBound}
    {function : α → γ} {otherFunction : β → δ}
    (agree : runs.Agree (runs.ParsedAgree Same) outcome other)
    (makes : ∀ {value : α} {otherValue : β}, Same value otherValue →
      After (function value) (otherFunction otherValue)) :
    runs.Agree (runs.ParsedAgree After)
      (outcome >>= fun parsed => pure (parsed.map function))
      (other >>= fun parsed => pure (parsed.map otherFunction)) :=
  agree.bind fun same => .ok ⟨makes same.value, same.places⟩

end Outcomes

/-! ## Tokens -/

section Tokens

variable {α β γ δ : Type} {Same : α → β → Prop} {After : γ → δ → Prop}
  {place other : Cursor}

theorem peek_agree (places : runs.PlacesAgree place other) :
    runs.Agree runs.Twins (peek runs.first place) (peek runs.second other) := by
  obtain ⟨tokens, depth⟩ := place
  obtain ⟨otherTokens, otherDepth⟩ := other
  obtain ⟨areTwins, _⟩ := places
  dsimp only at areTwins
  unfold peek
  cases areTwins with
  | nil =>
      rcases runs.endings with ⟨token, twin, ends, otherEnds, twins⟩ | ⟨error, ends, otherEnds⟩
      · rw [ends, otherEnds]
        exact .ok twins
      · rw [ends, otherEnds]
        exact .error (.ending ends)
  | cons twins _ => exact .ok twins

theorem takeIf?_agree
    {accept : Token → Option α} {otherAccept : Token → Option β}
    (places : runs.PlacesAgree place other)
    (accepts : runs.AcceptAlike Same accept otherAccept) :
    runs.Agree (Option.Rel (runs.ParsedAgree Same)) (takeIf? runs.first place accept)
      (takeIf? runs.second other otherAccept) := by
  obtain ⟨tokens, depth⟩ := place
  obtain ⟨otherTokens, otherDepth⟩ := other
  obtain ⟨areTwins, sameDepth⟩ := places
  dsimp only at areTwins sameDepth
  unfold takeIf?
  cases areTwins with
  | nil =>
      rcases runs.endings with ⟨token, twin, ends, otherEnds, twins⟩ | ⟨error, ends, otherEnds⟩
      · simp only [ends, otherEnds]
        exact .ok .none
      · simp only [ends, otherEnds]
        exact .error (.ending ends)
  | @cons token twin rest otherRest twins areTwins =>
      have accepted := accepts token twin twins
      dsimp only
      generalize accept token = value at accepted ⊢
      generalize otherAccept twin = otherValue at accepted ⊢
      cases accepted with
      | none => exact .ok .none
      | some same => exact .ok (.some ⟨same, areTwins, sameDepth⟩)

/-- What is read after an attempt to pass over a token. -/
theorem bind_takeIf?_agree
    {accept : Token → Option α} {otherAccept : Token → Option β}
    {next : Option (Parsed α place.size) → Except QueryError γ}
    {otherNext : Option (Parsed β other.size) → Except QueryError δ}
    (places : runs.PlacesAgree place other)
    (accepts : runs.AcceptAlike Same accept otherAccept)
    (declined : runs.Agree After (next none) (otherNext none))
    (taken : ∀ {parsed : Parsed α place.size} {otherParsed : Parsed β other.size},
      runs.ParsedAgree Same parsed otherParsed →
        runs.Agree After (next (some parsed)) (otherNext (some otherParsed))) :
    runs.Agree After (takeIf? runs.first place accept >>= next)
      (takeIf? runs.second other otherAccept >>= otherNext) := by
  refine (takeIf?_agree places accepts).bind fun related => ?_
  cases related with
  | none => exact declined
  | some same => exact taken same

theorem take_agree
    {accept : Token → Option α} {otherAccept : Token → Option β}
    {refuse otherRefuse : Token → QueryError}
    (places : runs.PlacesAgree place other)
    (refuses : ∀ {token twin : Token}, runs.Twins token twin →
      runs.ErrorsAgree (refuse token) (otherRefuse twin))
    (accepts : runs.AcceptAlike Same accept otherAccept) :
    runs.Agree (runs.ParsedAgree Same) (take runs.first place refuse accept)
      (take runs.second other otherRefuse otherAccept) := by
  unfold take
  refine bind_takeIf?_agree places accepts ?_ fun same => .ok same
  exact (peek_agree places).bind fun twins => .error (refuses twins)

/-- A token that has to be accepted, with what was expected in its place. -/
theorem take_expecting_agree
    {accept : Token → Option α} {otherAccept : Token → Option β}
    {expected : List Expectation}
    (places : runs.PlacesAgree place other)
    (accepts : runs.AcceptAlike Same accept otherAccept) :
    runs.Agree (runs.ParsedAgree Same) (take runs.first place (expecting expected) accept)
      (take runs.second other (expecting expected) otherAccept) :=
  take_agree places (fun twins => .unexpected expected twins) accepts

theorem checkDepth_agree {token twin : Token}
    (places : runs.PlacesAgree place other)
    (twins : runs.Twins token twin) :
    runs.Agree Eq (checkDepth runs.first place token) (checkDepth runs.second other twin) := by
  have isTighter := runs.isTighter
  unfold checkDepth
  rw [← places.depth]
  by_cases isShallow : place.depth < runs.first.maxDepth
  · rw [if_pos isShallow, if_pos (Nat.lt_of_lt_of_le isShallow isTighter)]
    exact .ok rfl
  · rw [if_neg isShallow]
    rcases Nat.lt_or_eq_of_le isTighter with isLess | isSame
    · exact .tooDeep _ isLess
    · rw [if_neg (isSame ▸ isShallow), ← isSame]
      exact .error (.unexpected _ twins)

/-! ## What tokens are accepted as -/

/-- What depends only on what a token says is the same for corresponding tokens. -/
theorem acceptAlike_of_agrees {accept : Token → Option α}
    (isSame : ∀ {token twin : Token}, token.Agrees twin → accept token = accept twin) :
    runs.AcceptAlike Eq accept accept := by
  intro token twin twins
  rw [isSame (runs.agrees twins)]
  cases accept twin with
  | none => exact .none
  | some value => exact .some rfl

theorem acceptAlike_of_content {accept : Token → Option α}
    (isSame : ∀ {token twin : Token}, token.content = twin.content →
      accept token = accept twin) :
    runs.AcceptAlike Eq accept accept :=
  acceptAlike_of_agrees fun agree => isSame agree.content

theorem acceptAlike_exactly (content : TokenContent) :
    runs.AcceptAlike runs.Twins (exactly content) (exactly content) := by
  intro token twin twins
  unfold exactly
  rw [(runs.agrees twins).content]
  split
  · exact .some twins
  · exact .none

end Tokens

/-- Lists with commas between their items agree if their items do. -/
theorem commaSeparated_agree {α : Type}
    {item otherItem : (cursor : Cursor) → Outcome α cursor.size}
    (items : ∀ {place other : Cursor}, runs.PlacesAgree place other →
      runs.ReadAlike (item place) (otherItem other))
    {place other : Cursor}
    (places : runs.PlacesAgree place other) :
    runs.ReadAlike (commaSeparated runs.first item place)
      (commaSeparated runs.second otherItem other) := by
  rw [commaSeparated, commaSeparated]
  refine (items places).bind fun {first otherFirst} same => ?_
  obtain ⟨sameFirst, placesAfter⟩ := same
  refine bind_takeIf?_agree placesAfter (acceptAlike_exactly .comma) ?_ ?_
  · exact .ok ⟨congrArg ([·]) sameFirst, placesAfter⟩
  · intro comma otherComma sameComma
    have isShorter := Nat.lt_trans comma.size_lt first.size_lt
    refine (commaSeparated_agree items sameComma.places).bind fun sameOthers => ?_
    exact .before (.before (.ok ⟨congrArg₂ _ sameFirst sameOthers.value, sameOthers.places⟩))
termination_by place.size

end TwoRuns

end Grammar

end EventQuery
