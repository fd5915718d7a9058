import EventQuery.Grammar.Query

/-!
# What readers give

`Gives outcome value after` says that a reader succeeded with a value and
stopped at a place.  For every reader of the grammar this module says once when
it gives what, in terms of the readers that it calls.  Whatever else is shown
about readers rests on these equivalences and opens no reader again.

Places are compared by what lies between them: `after.preceded tokens` is the
place from which some tokens lead to `after`.
-/

namespace EventQuery.Grammar

namespace Cursor

/-- The place from which some tokens lead to a given place. -/
def preceded (cursor : Cursor) (tokens : List Token) : Cursor :=
  { cursor with tokens := tokens ++ cursor.tokens }

@[simp]
theorem tokens_preceded (cursor : Cursor) (tokens : List Token) :
    (cursor.preceded tokens).tokens = tokens ++ cursor.tokens :=
  rfl

@[simp]
theorem depth_preceded (cursor : Cursor) (tokens : List Token) :
    (cursor.preceded tokens).depth = cursor.depth :=
  rfl

@[simp]
theorem size_preceded (cursor : Cursor) (tokens : List Token) :
    (cursor.preceded tokens).size = tokens.length + cursor.size := by
  simp [size]

@[simp]
theorem preceded_nil (cursor : Cursor) :
    cursor.preceded [] = cursor :=
  rfl

theorem preceded_append (cursor : Cursor) (first second : List Token) :
    cursor.preceded (first ++ second) =
      (cursor.preceded second).preceded first := by
  simp [preceded]

theorem preceded_cons (cursor : Cursor) (token : Token) (tokens : List Token) :
    cursor.preceded (token :: tokens) =
      (cursor.preceded tokens).preceded [token] :=
  rfl

@[simp]
theorem depth_deeper (cursor : Cursor) :
    cursor.deeper.depth = cursor.depth + 1 :=
  rfl

@[simp]
theorem deeper_preceded (cursor : Cursor) (tokens : List Token) :
    (cursor.preceded tokens).deeper = cursor.deeper.preceded tokens :=
  rfl

@[simp]
theorem shallower_preceded (cursor : Cursor) (tokens : List Token) :
    (cursor.preceded tokens).shallower = cursor.shallower.preceded tokens :=
  rfl

@[simp]
theorem shallower_deeper (cursor : Cursor) :
    cursor.deeper.shallower = cursor :=
  rfl

/-- Going deeper, over some tokens, and back is going over the tokens. -/
theorem eq_preceded_of_deeper_eq
    {cursor after : Cursor}
    {tokens : List Token}
    (equal : cursor.deeper = after.preceded tokens) :
    cursor = after.shallower.preceded tokens := by
  have back := congrArg shallower equal
  simpa using back

end Cursor

/-- A reader succeeds with a value and stops at a place. -/
def Gives {α : Type} {bound : Nat}
    (outcome : Outcome α bound)
    (value : α)
    (after : Cursor) : Prop :=
  ∃ isShorter : after.size < bound, outcome = .ok ⟨value, after, isShorter⟩

/-! ## Combinators -/

section Combinators

variable {α β γ : Type} {bound wide : Nat} {value : α} {after : Cursor}

theorem Gives.size_lt {outcome : Outcome α bound} (gives : Gives outcome value after) :
    after.size < bound := by
  obtain ⟨isShorter, _⟩ := gives
  exact isShorter

theorem gives_of_eq_ok
    {outcome : Outcome α bound}
    {parsed : Parsed α bound}
    (equal : outcome = .ok parsed) :
    Gives outcome parsed.value parsed.cursor :=
  ⟨parsed.size_lt, equal⟩

@[simp]
theorem gives_ok_iff {parsed : Parsed α bound} :
    Gives (.ok parsed) value after ↔
      parsed.value = value ∧ parsed.cursor = after := by
  constructor
  · rintro ⟨_, equal⟩
    cases equal
    exact ⟨rfl, rfl⟩
  · rintro ⟨rfl, rfl⟩
    exact ⟨parsed.size_lt, rfl⟩

@[simp]
theorem gives_pure_iff {parsed : Parsed α bound} :
    Gives (pure parsed) value after ↔
      parsed.value = value ∧ parsed.cursor = after :=
  gives_ok_iff

@[simp]
theorem not_gives_error {error : QueryError} :
    ¬ Gives (.error error : Outcome α bound) value after := by
  rintro ⟨_, equal⟩
  cases equal

@[simp]
theorem not_gives_throw {error : QueryError} :
    ¬ Gives (throw error : Outcome α bound) value after :=
  not_gives_error

theorem bind_eq_ok_iff
    {step : Except QueryError β}
    {next : β → Except QueryError γ}
    {result : γ} :
    step >>= next = .ok result ↔
      ∃ middle, step = .ok middle ∧ next middle = .ok result := by
  cases step with
  | error fault =>
      constructor
      · intro equal
        cases equal
      · rintro ⟨_, equal, _⟩
        cases equal
  | ok middle =>
      constructor
      · intro equal
        exact ⟨middle, rfl, equal⟩
      · rintro ⟨_, stepEqual, equal⟩
        cases stepEqual
        exact equal

theorem gives_bind_iff
    {step : Except QueryError β}
    {next : β → Outcome α bound} :
    Gives (step >>= next) value after ↔
      ∃ middle, step = .ok middle ∧ Gives (next middle) value after := by
  constructor
  · rintro ⟨isShorter, equal⟩
    obtain ⟨middle, stepEqual, nextEqual⟩ := bind_eq_ok_iff.mp equal
    exact ⟨middle, stepEqual, isShorter, nextEqual⟩
  · rintro ⟨middle, stepEqual, isShorter, nextEqual⟩
    exact ⟨isShorter, bind_eq_ok_iff.mpr ⟨middle, stepEqual, nextEqual⟩⟩

/-- A reader that goes on from the result of another one. -/
theorem gives_bind_outcome_iff
    {step : Outcome β wide}
    {next : Parsed β wide → Outcome α bound} :
    Gives (step >>= next) value after ↔
      ∃ (middle : β) (place : Cursor) (isShorter : place.size < wide),
        Gives step middle place ∧
          Gives (next ⟨middle, place, isShorter⟩) value after := by
  rw [gives_bind_iff]
  constructor
  · rintro ⟨⟨middle, place, isShorter⟩, stepEqual, gives⟩
    exact ⟨middle, place, isShorter, gives_of_eq_ok stepEqual, gives⟩
  · rintro ⟨middle, place, isShorter, ⟨_, stepEqual⟩, gives⟩
    exact ⟨_, stepEqual, gives⟩

/-- Behind a reader that gives a value, reading goes on with that value and place. -/
theorem bind_of_gives
    {step : Outcome β wide}
    {next : Parsed β wide → Except QueryError γ}
    {middle : β} {place : Cursor}
    (stepGives : Gives step middle place) :
    step >>= next = next ⟨middle, place, stepGives.size_lt⟩ := by
  obtain ⟨isShorter, rfl⟩ := stepGives
  rfl

theorem gives_bind_of_gives
    {step : Outcome β wide}
    {next : Parsed β wide → Outcome α bound}
    {middle : β} {place : Cursor}
    (stepGives : Gives step middle place)
    (gives : Gives (next ⟨middle, place, stepGives.size_lt⟩) value after) :
    Gives (step >>= next) value after := by
  rw [bind_of_gives stepGives]
  exact gives

/-- A result that is made from what a reader gives. -/
theorem bind_outcome_eq_ok_iff
    {step : Outcome β wide}
    {next : Parsed β wide → Except QueryError γ}
    {result : γ} :
    step >>= next = .ok result ↔
      ∃ (middle : β) (place : Cursor) (isShorter : place.size < wide),
        Gives step middle place ∧ next ⟨middle, place, isShorter⟩ = .ok result := by
  rw [bind_eq_ok_iff]
  constructor
  · rintro ⟨⟨middle, place, isShorter⟩, stepEqual, equal⟩
    exact ⟨middle, place, isShorter, gives_of_eq_ok stepEqual, equal⟩
  · rintro ⟨middle, place, isShorter, ⟨_, stepEqual⟩, equal⟩
    exact ⟨_, stepEqual, equal⟩

theorem gives_map_widen_iff
    {outcome : Outcome α bound}
    {isWider : bound ≤ wide} :
    Gives (outcome.map (·.widen isWider)) value after ↔
      Gives outcome value after := by
  constructor
  · rintro ⟨isShorter, equal⟩
    cases outcome with
    | error => cases equal
    | ok parsed =>
        cases equal
        exact ⟨parsed.size_lt, rfl⟩
  · rintro ⟨isShorter, rfl⟩
    exact ⟨Nat.lt_of_lt_of_le isShorter isWider, rfl⟩

@[simp]
theorem gives_before_iff
    {parsed : Parsed β bound}
    {outcome : Outcome α parsed.cursor.size} :
    Gives (parsed.before outcome) value after ↔ Gives outcome value after :=
  gives_map_widen_iff

@[simp]
theorem gives_beforeRest_iff
    {parsed : Parsed β bound}
    {outcome : Outcome α (parsed.cursor.size + 1)} :
    Gives (parsed.beforeRest outcome) value after ↔ Gives outcome value after :=
  gives_map_widen_iff

@[simp]
theorem gives_relaxed_iff {outcome : Outcome α bound} :
    Gives outcome.relaxed value after ↔ Gives outcome value after :=
  gives_map_widen_iff

end Combinators

/-! ## Looking at the token ahead -/

section Tokens

variable {α β : Type} (setting : Setting) {cursor after : Cursor} {bound : Nat} {value : β}

/-- Nothing is passed over at a place: no token is ahead, or none that is accepted. -/
def Declines (cursor : Cursor) (accept : Token → Option α) : Prop :=
  takeIf? setting cursor accept = .ok none

theorem exactly_eq_some_iff {content : TokenContent} {token found : Token} :
    exactly content token = some found ↔ token.content = content ∧ found = token := by
  unfold exactly
  split <;> rename_i equal <;> simp [equal, eq_comm]

theorem exactly_of_content {content : TokenContent} {token : Token}
    (means : token.content = content) :
    exactly content token = some token :=
  exactly_eq_some_iff.mpr ⟨means, rfl⟩

theorem exactly_eq_none_iff {content : TokenContent} {token : Token} :
    exactly content token = none ↔ token.content ≠ content := by
  simp [exactly]

/-- A place is at the end, or there is a token ahead. -/
theorem Cursor.eq_end_or_preceded (cursor : Cursor) :
    cursor.tokens = [] ∨
      ∃ (token : Token) (after : Cursor), cursor = after.preceded [token] := by
  obtain ⟨tokens, depth⟩ := cursor
  cases tokens with
  | nil => exact Or.inl rfl
  | cons token rest => exact Or.inr ⟨token, ⟨rest, depth⟩, rfl⟩

theorem Cursor.preceded_singleton_inj {after' : Cursor} {token token' : Token} :
    after.preceded [token] = after'.preceded [token'] ↔
      token = token' ∧ after = after' := by
  obtain ⟨tokens, depth⟩ := after
  obtain ⟨tokens', depth'⟩ := after'
  simp [Cursor.preceded, and_assoc]

theorem Cursor.size_lt_size_preceded_singleton (token : Token) (after : Cursor) :
    after.size < (after.preceded [token]).size := by
  simp

theorem takeIf?_preceded
    {accept : Token → Option α}
    {token : Token} :
    takeIf? setting (after.preceded [token]) accept =
      .ok
        ((accept token).map fun value =>
          ⟨value, after, after.size_lt_size_preceded_singleton token⟩) := by
  unfold takeIf?
  cases accepted : accept token <;> simp [Cursor.preceded, accepted]

theorem takeIf?_eq_some_iff
    {accept : Token → Option α}
    {parsed : Parsed α cursor.size} :
    takeIf? setting cursor accept = .ok (some parsed) ↔
      ∃ token,
        cursor = parsed.cursor.preceded [token] ∧
          accept token = some parsed.value := by
  obtain ⟨value, after, isShorter⟩ := parsed
  rcases cursor.eq_end_or_preceded with isEnd | ⟨token, place, rfl⟩
  · simp [Cursor.size, isEnd] at isShorter
  · rw [takeIf?_preceded]
    constructor
    · intro equal
      simp only [Except.ok.injEq, Option.map_eq_some_iff, Parsed.mk.injEq] at equal
      obtain ⟨found, accepted, rfl, rfl⟩ := equal
      exact ⟨token, rfl, accepted⟩
    · rintro ⟨other, equal, accepted⟩
      obtain ⟨rfl, rfl⟩ := Cursor.preceded_singleton_inj.mp equal
      simp [accepted]

theorem declines_preceded_iff
    {token : Token}
    {accept : Token → Option α} :
    Declines setting (after.preceded [token]) accept ↔ accept token = none := by
  unfold Declines
  rw [takeIf?_preceded]
  simp

theorem declines_end
    {accept : Token → Option α}
    {ending : Token}
    (endsWell : setting.ending = .ok ending)
    (isEnd : cursor.tokens = []) :
    Declines setting cursor accept := by
  obtain ⟨tokens, depth⟩ := cursor
  subst isEnd
  simp [Declines, takeIf?, endsWell]

/--
What is read after an attempt to pass over a token: either nothing was passed
over, or a token was, and reading went on behind it.
-/
theorem gives_bind_takeIf?_iff
    {accept : Token → Option α}
    {next : Option (Parsed α cursor.size) → Outcome β bound} :
    Gives (takeIf? setting cursor accept >>= next) value after ↔
      (Declines setting cursor accept ∧ Gives (next none) value after) ∨
        ∃ (token : Token) (found : α) (place : Cursor)
          (isShorter : place.size < cursor.size),
          cursor = place.preceded [token] ∧ accept token = some found ∧
            Gives (next (some ⟨found, place, isShorter⟩)) value after := by
  rw [gives_bind_iff]
  constructor
  · rintro ⟨taken, equal, gives⟩
    cases taken with
    | none => exact Or.inl ⟨equal, gives⟩
    | some parsed =>
        obtain ⟨token, place, accepted⟩ := (takeIf?_eq_some_iff setting).mp equal
        exact
          Or.inr
            ⟨token, parsed.value, parsed.cursor, parsed.size_lt, place, accepted,
              gives⟩
  · rintro (⟨declines, gives⟩ | ⟨token, found, place, isShorter, equal, accepted, gives⟩)
    · exact ⟨none, declines, gives⟩
    · exact
        ⟨some ⟨found, place, isShorter⟩,
          (takeIf?_eq_some_iff setting).mpr ⟨token, equal, accepted⟩, gives⟩

theorem gives_bind_takeIf?_of_declines
    {accept : Token → Option α}
    {next : Option (Parsed α cursor.size) → Outcome β bound}
    (declines : Declines setting cursor accept)
    (gives : Gives (next none) value after) :
    Gives (takeIf? setting cursor accept >>= next) value after :=
  (gives_bind_takeIf?_iff setting).mpr (Or.inl ⟨declines, gives⟩)

theorem gives_bind_takeIf?_of_accepts
    {accept : Token → Option α} {token : Token} {found : α} {place : Cursor}
    {next : Option (Parsed α (place.preceded [token]).size) → Outcome β bound}
    (accepted : accept token = some found)
    (gives :
      Gives (next (some ⟨found, place, place.size_lt_size_preceded_singleton token⟩))
        value after) :
    Gives (takeIf? setting (place.preceded [token]) accept >>= next) value after :=
  (gives_bind_takeIf?_iff setting).mpr
    (Or.inr ⟨token, found, place, _, rfl, accepted, gives⟩)

@[simp]
theorem gives_take_iff
    {found : α}
    {refuse : Token → QueryError}
    {accept : Token → Option α} :
    Gives (take setting cursor refuse accept) found after ↔
      ∃ token, cursor = after.preceded [token] ∧ accept token = some found := by
  unfold take
  rw [gives_bind_takeIf?_iff]
  constructor
  · rintro (⟨_, gives⟩ | ⟨token, other, place, isShorter, equal, accepted, gives⟩)
    · obtain ⟨token, _, gives⟩ := gives_bind_iff.mp gives
      exact (not_gives_throw gives).elim
    · obtain ⟨rfl, rfl⟩ := gives_pure_iff.mp gives
      exact ⟨token, equal, accepted⟩
  · rintro ⟨token, rfl, accepted⟩
    exact
      Or.inr
        ⟨token, found, after, by simp, rfl, accepted, gives_pure_iff.mpr ⟨rfl, rfl⟩⟩

/-- What is read behind a token that has to be accepted. -/
theorem gives_bind_take_iff
    {refuse : Token → QueryError}
    {accept : Token → Option α}
    {next : Parsed α cursor.size → Outcome β bound} :
    Gives (take setting cursor refuse accept >>= next) value after ↔
      ∃ (token : Token) (found : α) (place : Cursor)
        (isShorter : place.size < cursor.size),
        cursor = place.preceded [token] ∧ accept token = some found ∧
          Gives (next ⟨found, place, isShorter⟩) value after := by
  rw [gives_bind_outcome_iff]
  constructor
  · rintro ⟨found, place, isShorter, taken, gives⟩
    obtain ⟨token, equal, accepted⟩ := (gives_take_iff setting).mp taken
    exact ⟨token, found, place, isShorter, equal, accepted, gives⟩
  · rintro ⟨token, found, place, isShorter, equal, accepted, gives⟩
    exact
      ⟨found, place, isShorter, (gives_take_iff setting).mpr ⟨token, equal, accepted⟩,
        gives⟩

theorem gives_bind_take_of_accepts
    {refuse : Token → QueryError}
    {accept : Token → Option α} {token : Token} {found : α} {place : Cursor}
    {next : Parsed α (place.preceded [token]).size → Outcome β bound}
    (accepted : accept token = some found)
    (gives :
      Gives (next ⟨found, place, place.size_lt_size_preceded_singleton token⟩) value after) :
    Gives (take setting (place.preceded [token]) refuse accept >>= next) value after :=
  (gives_bind_take_iff setting).mpr ⟨token, found, place, _, rfl, accepted, gives⟩

/-- One token of a certain content is passed over. -/
theorem gives_take_exactly_iff
    {content : TokenContent} {token : Token}
    {refuse : Token → QueryError} :
    Gives (take setting cursor refuse (exactly content)) token after ↔
      cursor = after.preceded [token] ∧ token.content = content := by
  rw [gives_take_iff]
  constructor
  · rintro ⟨found, equal, accepted⟩
    obtain ⟨means, rfl⟩ := exactly_eq_some_iff.mp accepted
    exact ⟨equal, means⟩
  · rintro ⟨equal, means⟩
    exact ⟨token, equal, exactly_of_content means⟩

theorem gives_bind_take_exactly_iff
    {content : TokenContent}
    {refuse : Token → QueryError}
    {next : Parsed Token cursor.size → Outcome β bound} :
    Gives (take setting cursor refuse (exactly content) >>= next) value after ↔
      ∃ (token : Token) (place : Cursor) (isShorter : place.size < cursor.size),
        cursor = place.preceded [token] ∧ token.content = content ∧
          Gives (next ⟨token, place, isShorter⟩) value after := by
  rw [gives_bind_outcome_iff]
  constructor
  · rintro ⟨token, place, isShorter, taken, gives⟩
    obtain ⟨equal, means⟩ := (gives_take_exactly_iff setting).mp taken
    exact ⟨token, place, isShorter, equal, means, gives⟩
  · rintro ⟨token, place, isShorter, equal, means, gives⟩
    exact
      ⟨token, place, isShorter, (gives_take_exactly_iff setting).mpr ⟨equal, means⟩, gives⟩

theorem peek_preceded (token : Token) :
    peek setting (after.preceded [token]) = .ok token :=
  rfl

theorem peek_end (isEnd : cursor.tokens = []) :
    peek setting cursor = setting.ending := by
  unfold peek
  rw [isEnd]

theorem checkDepth_eq_ok_iff {token : Token} {result : Unit} :
    checkDepth setting cursor token = .ok result ↔ cursor.depth < setting.maxDepth := by
  unfold checkDepth
  split <;> rename_i deep
  · exact ⟨fun _ => deep, fun _ => rfl⟩
  · exact ⟨fun equal => (by cases equal), fun less => absurd less deep⟩

end Tokens

end EventQuery.Grammar
