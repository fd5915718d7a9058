import EventQuery.Proofs.Grammar.Reading
import EventQuery.Proofs.Steps.Readers

/-!
# What a log may hold

`Walk` says what the log of a run looks like from a place to a place: what was
looked at was the token ahead there, what was passed over was that token, and
stages that begin at one place have higher and higher ranks, none of them deeper
than is allowed.

`Tracks` says of a logged run that it gives what the reader gives and that its log
is such a walk.  It is shown for the combinators here, and for the readers after
this, combinator by combinator.
-/

namespace EventQuery.Grammar

variable {setting : Setting}

/--
A log that leads from some tokens to later ones.  At the place where it starts,
only stages of at least the rank `floor` may still begin.
-/
inductive Walk (setting : Setting) :
    Nat → List Token → List Event → Nat → List Token → Prop where
  | done (floor : Nat) (tokens : List Token) :
      Walk setting floor tokens [] floor tokens
  | begins {floor last depth : Nat} {stage : Stage} {tokens rest : List Token}
      {log : List Event}
      (isInOrder : floor ≤ stage.rank)
      (isShallow : depth ≤ setting.maxDepth)
      (walk : Walk setting (stage.rank + 1) tokens log last rest) :
      Walk setting floor tokens (.begins stage ⟨tokens, depth⟩ :: log) last rest
  | looks {floor last depth : Nat} {tokens rest : List Token} {log : List Event}
      (walk : Walk setting floor tokens log last rest) :
      Walk setting floor tokens (.looks (peek setting ⟨tokens, depth⟩) :: log) last rest
  | passes {floor last : Nat} {token : Token} {tokens rest : List Token} {log : List Event}
      (walk : Walk setting 0 tokens log last rest) :
      Walk setting floor (token :: tokens) (.passes token :: log) last rest

theorem Walk.append {first middle last : Nat} {start between rest : List Token}
    {log more : List Event}
    (walk : Walk setting first start log middle between)
    (goesOn : Walk setting middle between more last rest) :
    Walk setting first start (log ++ more) last rest := by
  induction walk with
  | done => exact goesOn
  | begins isInOrder isShallow _ hypothesis =>
      exact .begins isInOrder isShallow (hypothesis goesOn)
  | looks _ hypothesis => exact .looks (hypothesis goesOn)
  | passes _ hypothesis => exact .passes (hypothesis goesOn)

/--
A logged run gives an outcome, and its log leads from some tokens on.  `After` says
which values go with which place and which rank at the end of it.
-/
structure Tracks {α : Type}
    (setting : Setting)
    (floor : Nat)
    (tokens : List Token)
    (run : Logged α)
    (outcome : Except QueryError α)
    (After : α → Nat → List Token → Prop) : Prop where
  isSame : run.outcome = outcome
  walk :
    ∃ last rest,
      Walk setting floor tokens run.log last rest ∧
        ∀ value, outcome = .ok value → After value last rest

/--
The end of a reader that started at a given depth: it stands where the log has led,
at the depth where it started, and only stages of the rank `exit` or more need to
be allowed there.
-/
structure Arrives {α : Type} {bound : Nat}
    (depth exit : Nat)
    (parsed : Parsed α bound)
    (last : Nat)
    (rest : List Token) : Prop where
  tokens : rest = parsed.cursor.tokens
  depth : parsed.cursor.depth = depth
  exit : last ≤ exit

/-- A logged reader that goes the way of a reader, and leaves the depth as it was. -/
abbrev Follows {α : Type} {bound : Nat}
    (setting : Setting)
    (floor : Nat)
    (place : Cursor)
    (run : Logged (Parsed α bound))
    (outcome : Outcome α bound)
    (exit : Nat) : Prop :=
  Tracks setting floor place.tokens run outcome (Arrives place.depth exit)

/-! ## Combinators -/

section Combinators

variable {α β : Type} {floor depth : Nat} {tokens : List Token}

theorem Tracks.quiet {outcome : Except QueryError α} {After : α → Nat → List Token → Prop}
    (arrives : ∀ value, outcome = .ok value → After value floor tokens) :
    Tracks setting floor tokens (.quiet outcome) outcome After :=
  ⟨rfl, floor, tokens, .done floor tokens, arrives⟩

theorem Tracks.throw {error : QueryError} {After : α → Nat → List Token → Prop} :
    Tracks setting floor tokens (.quiet (throw error)) (throw error) After :=
  .quiet fun _ isOk => nomatch isOk

/-- A run that goes on where another one has stopped. -/
theorem Tracks.bind
    {run : Logged α} {outcome : Except QueryError α}
    {next : α → Logged β} {plainNext : α → Except QueryError β}
    {Between : α → Nat → List Token → Prop} {After : β → Nat → List Token → Prop}
    (tracks : Tracks setting floor tokens run outcome Between)
    (goesOn : ∀ value last rest, outcome = .ok value → Between value last rest →
      Tracks setting last rest (next value) (plainNext value) After) :
    Tracks setting floor tokens (run >>= next) (outcome >>= plainNext) After := by
  obtain ⟨log, ran⟩ := run
  obtain ⟨rfl, last, rest, walk, arrives⟩ := tracks
  cases ran with
  | error error =>
      exact ⟨rfl, last, rest, walk, fun _ isOk => nomatch isOk⟩
  | ok value =>
      obtain ⟨isSame, later, ending, goes, ends⟩ :=
        goesOn value last rest rfl (arrives value rfl)
      exact ⟨isSame, later, ending, walk.append goes, ends⟩

/-- A stage that begins where it may. -/
theorem Tracks.start
    {stage : Stage}
    {next : Unit → Logged β} {outcome : Except QueryError β}
    {After : β → Nat → List Token → Prop}
    (isInOrder : floor ≤ stage.rank)
    (isShallow : depth ≤ setting.maxDepth)
    (goesOn : Tracks setting (stage.rank + 1) tokens (next ()) outcome After) :
    Tracks setting floor tokens (Logged.start stage ⟨tokens, depth⟩ >>= next) outcome
      After := by
  obtain ⟨isSame, last, rest, walk, arrives⟩ := goesOn
  exact ⟨isSame, last, rest, .begins isInOrder isShallow walk, arrives⟩

/-- A look at the token ahead, which leads nowhere. -/
theorem Tracks.peek
    {next : Token → Logged β} {plainNext : Token → Except QueryError β}
    {After : β → Nat → List Token → Prop}
    (goesOn : ∀ token, Tracks setting floor tokens (next token) (plainNext token) After) :
    Tracks setting floor tokens (Logged.peek setting ⟨tokens, depth⟩ >>= next)
      (Grammar.peek setting ⟨tokens, depth⟩ >>= plainNext) After := by
  have looked :
      Tracks setting floor tokens (Logged.peek setting ⟨tokens, depth⟩)
        (Grammar.peek setting ⟨tokens, depth⟩)
        (fun _ last rest => last = floor ∧ rest = tokens) :=
    ⟨rfl, floor, tokens, .looks (.done _ _), fun _ _ => ⟨rfl, rfl⟩⟩
  refine looked.bind ?_
  rintro token _ _ _ ⟨rfl, rfl⟩
  exact goesOn token

/-- A check that does not look at tokens. -/
theorem Tracks.check
    {outcome : Except QueryError α}
    {next : α → Logged β} {plainNext : α → Except QueryError β}
    {After : β → Nat → List Token → Prop}
    (goesOn : ∀ value, outcome = .ok value →
      Tracks setting floor tokens (next value) (plainNext value) After) :
    Tracks setting floor tokens (.quiet outcome >>= next) (outcome >>= plainNext) After := by
  have checked :
      Tracks setting floor tokens (.quiet outcome) outcome
        (fun _ last rest => last = floor ∧ rest = tokens) :=
    .quiet fun _ _ => ⟨rfl, rfl⟩
  refine checked.bind ?_
  rintro value _ _ isOk ⟨rfl, rfl⟩
  exact goesOn value isOk

end Combinators

/-! ## Results -/

section Results

variable {α β : Type} {bound wide floor depth exit : Nat} {tokens : List Token}

/-- A reader that stops where it has got to. -/
theorem Tracks.arrive {outcome : Outcome α bound} {parsed : Parsed α bound}
    (isResult : outcome = .ok parsed)
    (isThere : tokens = parsed.cursor.tokens)
    (isDepth : parsed.cursor.depth = depth)
    (isExit : floor ≤ exit) :
    Tracks setting floor tokens (.quiet outcome) outcome (Arrives depth exit) := by
  refine .quiet fun value isOk => ?_
  rw [isResult] at isOk
  cases isOk
  exact ⟨isThere, isDepth, isExit⟩

/-- What is read from the place where a reader has arrived. -/
theorem Tracks.andThen
    {run : Logged (Parsed α bound)} {outcome : Outcome α bound}
    {next : Parsed α bound → Logged β} {plainNext : Parsed α bound → Except QueryError β}
    {After : β → Nat → List Token → Prop}
    (tracks : Tracks setting floor tokens run outcome (Arrives depth exit))
    (goesOn : ∀ (value : α) (rest : List Token)
      (isShorter : Cursor.size ⟨rest, depth⟩ < bound) (last : Nat),
      last ≤ exit →
        Tracks setting last rest (next ⟨value, ⟨rest, depth⟩, isShorter⟩)
          (plainNext ⟨value, ⟨rest, depth⟩, isShorter⟩) After) :
    Tracks setting floor tokens (run >>= next) (outcome >>= plainNext) After := by
  refine tracks.bind fun parsed last rest _ arrives => ?_
  obtain ⟨value, ⟨ahead, _⟩, isShorter⟩ := parsed
  obtain ⟨rfl, rfl, isExit⟩ := arrives
  exact goesOn value _ isShorter last isExit

/-- Results that are seen in another way stand where they stood. -/
theorem Tracks.widen
    {run : Logged (Parsed α bound)} {outcome : Outcome α bound}
    {isWider : bound ≤ wide}
    (tracks : Tracks setting floor tokens run outcome (Arrives depth exit)) :
    Tracks setting floor tokens (run.through (·.map (·.widen isWider)))
      (outcome.map (·.widen isWider) : Outcome α wide) (Arrives depth exit) := by
  obtain ⟨rfl, last, rest, walk, arrives⟩ := tracks
  refine ⟨rfl, last, rest, walk, fun value isOk => ?_⟩
  cases given : run.outcome with
  | error error =>
      rw [given] at isOk
      cases isOk
  | ok parsed =>
      rw [given] at isOk
      cases isOk
      obtain ⟨isThere, isDepth, isExit⟩ := arrives parsed given
      exact ⟨isThere, isDepth, isExit⟩

theorem Tracks.before
    {parsed : Parsed β bound}
    {run : Logged (Parsed α parsed.cursor.size)} {outcome : Outcome α parsed.cursor.size}
    (tracks : Tracks setting floor tokens run outcome (Arrives depth exit)) :
    Tracks setting floor tokens (run.through parsed.before) (parsed.before outcome)
      (Arrives depth exit) :=
  tracks.widen

theorem Tracks.beforeRest
    {parsed : Parsed β bound}
    {run : Logged (Parsed α (parsed.cursor.size + 1))}
    {outcome : Outcome α (parsed.cursor.size + 1)}
    (tracks : Tracks setting floor tokens run outcome (Arrives depth exit)) :
    Tracks setting floor tokens (run.through parsed.beforeRest) (parsed.beforeRest outcome)
      (Arrives depth exit) :=
  tracks.widen

theorem Tracks.relaxed
    {run : Logged (Parsed α bound)} {outcome : Outcome α bound}
    (tracks : Tracks setting floor tokens run outcome (Arrives depth exit)) :
    Tracks setting floor tokens (run.through Outcome.relaxed) outcome.relaxed
      (Arrives depth exit) :=
  tracks.widen

/-- Stages that may begin behind a reader may begin behind one that allows more. -/
theorem Tracks.weaken
    {run : Logged (Parsed α bound)} {outcome : Outcome α bound} {lower : Nat}
    (tracks : Tracks setting floor tokens run outcome (Arrives depth lower))
    (isLower : lower ≤ exit) :
    Tracks setting floor tokens run outcome (Arrives depth exit) := by
  obtain ⟨isSame, last, rest, walk, arrives⟩ := tracks
  refine ⟨isSame, last, rest, walk, fun value isOk => ?_⟩
  obtain ⟨isThere, isDepth, isExit⟩ := arrives value isOk
  exact ⟨isThere, isDepth, Nat.le_trans isExit isLower⟩

end Results

/-! ## Tokens -/

section Tokens

variable {α β : Type} {floor depth : Nat} {tokens : List Token}

/-- Where an attempt to pass over a token ends: nothing has moved, or the token is behind. -/
inductive Attempt (floor : Nat) (cursor : Cursor) (accept : Token → Option α) :
    Option (Parsed α cursor.size) → Nat → List Token → Prop where
  | declined :
      Attempt floor cursor accept none floor cursor.tokens
  | taken {token : Token} {value : α} {rest : List Token}
      (isShorter : Cursor.size ⟨rest, cursor.depth⟩ < cursor.size)
      (accepted : accept token = some value) :
      Attempt floor cursor accept (some ⟨value, ⟨rest, cursor.depth⟩, isShorter⟩) 0 rest

theorem tracks_takeIf? {accept : Token → Option α} :
    Tracks setting floor tokens (Logged.takeIf? setting ⟨tokens, depth⟩ accept)
      (Grammar.takeIf? setting ⟨tokens, depth⟩ accept)
      (Attempt floor ⟨tokens, depth⟩ accept) := by
  refine ⟨rfl, ?_⟩
  cases found : Grammar.takeIf? setting ⟨tokens, depth⟩ accept with
  | error error =>
      simp only [Logged.takeIf?, found]
      exact ⟨floor, tokens, .looks (.done _ _), fun _ isOk => nomatch isOk⟩
  | ok result =>
      cases result with
      | none =>
          simp only [Logged.takeIf?, found]
          refine ⟨floor, tokens, .looks (.done _ _), ?_⟩
          rintro _ ⟨⟩
          exact .declined
      | some parsed =>
          obtain ⟨token, isBehind, accepted⟩ := (takeIf?_eq_some_iff setting).mp found
          obtain ⟨value, after, isShorter⟩ := parsed
          dsimp only at isBehind accepted
          obtain ⟨rfl, rfl⟩ := Cursor.mk.inj isBehind
          simp only [Logged.takeIf?, found]
          refine ⟨0, after.tokens, .looks (.passes (.done _ _)), ?_⟩
          rintro _ ⟨⟩
          exact .taken isShorter accepted

/-- What is read after an attempt to pass over a token. -/
theorem Tracks.takeIf? {accept : Token → Option α}
    {next : Option (Parsed α (Cursor.size ⟨tokens, depth⟩)) → Logged β}
    {plainNext : Option (Parsed α (Cursor.size ⟨tokens, depth⟩)) → Except QueryError β}
    {After : β → Nat → List Token → Prop}
    (declined : Tracks setting floor tokens (next none) (plainNext none) After)
    (taken : ∀ (token : Token) (value : α) (rest : List Token)
      (isShorter : Cursor.size ⟨rest, depth⟩ < Cursor.size ⟨tokens, depth⟩),
      accept token = some value →
        Tracks setting 0 rest (next (some ⟨value, ⟨rest, depth⟩, isShorter⟩))
          (plainNext (some ⟨value, ⟨rest, depth⟩, isShorter⟩)) After) :
    Tracks setting floor tokens (Logged.takeIf? setting ⟨tokens, depth⟩ accept >>= next)
      (Grammar.takeIf? setting ⟨tokens, depth⟩ accept >>= plainNext) After := by
  refine tracks_takeIf?.bind fun found last rest _ attempt => ?_
  cases attempt with
  | declined => exact declined
  | taken isShorter accepted => exact taken _ _ _ isShorter accepted

/-- A token that has to be accepted. -/
theorem follows_take {refuse : Token → QueryError} {accept : Token → Option α} :
    Follows setting floor ⟨tokens, depth⟩
      (Logged.take setting ⟨tokens, depth⟩ refuse accept)
      (Grammar.take setting ⟨tokens, depth⟩ refuse accept) 0 := by
  refine .takeIf? ?_ fun token value rest isShorter _ => ?_
  · exact .peek fun token => .throw
  · exact .arrive rfl rfl rfl (Nat.le_refl 0)

/-- What is read after a token that has to be accepted. -/
theorem Tracks.take {refuse : Token → QueryError} {accept : Token → Option α}
    {next : Parsed α (Cursor.size ⟨tokens, depth⟩) → Logged β}
    {plainNext : Parsed α (Cursor.size ⟨tokens, depth⟩) → Except QueryError β}
    {After : β → Nat → List Token → Prop}
    (goesOn : ∀ (value : α) (rest : List Token)
      (isShorter : Cursor.size ⟨rest, depth⟩ < Cursor.size ⟨tokens, depth⟩),
        Tracks setting 0 rest (next ⟨value, ⟨rest, depth⟩, isShorter⟩)
          (plainNext ⟨value, ⟨rest, depth⟩, isShorter⟩) After) :
    Tracks setting floor tokens (Logged.take setting ⟨tokens, depth⟩ refuse accept >>= next)
      (Grammar.take setting ⟨tokens, depth⟩ refuse accept >>= plainNext) After := by
  refine follows_take.andThen fun value rest isShorter last isLast => ?_
  obtain rfl : last = 0 := Nat.le_zero.mp isLast
  exact goesOn value rest isShorter

/-- One level of nesting more is only entered where it is allowed. -/
theorem Tracks.checkDepth {ahead : List Token} {token : Token}
    {next : Unit → Logged β} {plainNext : Unit → Except QueryError β}
    {After : β → Nat → List Token → Prop}
    (goesOn : depth < setting.maxDepth →
      Tracks setting floor tokens (next ()) (plainNext ()) After) :
    Tracks setting floor tokens
      (.quiet (Grammar.checkDepth setting ⟨ahead, depth⟩ token) >>= next)
      (Grammar.checkDepth setting ⟨ahead, depth⟩ token >>= plainNext) After := by
  refine .check fun _ isShallow => ?_
  exact goesOn ((checkDepth_eq_ok_iff setting).mp isShallow)

end Tokens

end EventQuery.Grammar
