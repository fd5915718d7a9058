import EventQuery.Proofs.Steps.Query
import EventQuery.Proofs.Token.Items

/-!
# Pulling tokens on demand

A feed pulls an item off a lexer only when somebody looks for a token and none is
at hand, and keeps it until it is passed over.  An error and the token at the end
of the query are kept for good, so nothing is pulled behind them.

A log that leads along the tokens of a query is served by a feed of the same query:
the feed shows what was looked at and hands over what was passed over.
-/

namespace EventQuery.Grammar

/-- A lexer, and the item that was pulled off it last unless that was passed over. -/
structure Feed where
  lexer : Lexer
  ahead : Option (Except QueryError Token)
  /-- All items that were pulled, in order. -/
  pulled : List (Except QueryError Token)

namespace Feed

/-- A feed from which nothing was pulled yet. -/
def new (source : String) (limit : Option Nat) : Feed where
  lexer := .new source limit
  ahead := none
  pulled := []

/-- Pulls an item unless one is at hand. -/
def fill (feed : Feed) : Feed :=
  match feed.ahead with
  | some _ => feed
  | none =>
      match feed.lexer.next with
      | (some item, after) => ⟨after, some item, feed.pulled ++ [item]⟩
      | (none, after) => { feed with lexer := after }

/-- What somebody sees who looks for a token. -/
def look (feed : Feed) : Except QueryError Token :=
  feed.fill.ahead.getD (.error .exhausted)

/-- Lets go of the token at hand. -/
def pass (feed : Feed) : Feed :=
  { feed.fill with ahead := none }

/--
The feed serves a log: it shows what was looked at, and what was passed over was
at hand and was not the end of the query.
-/
inductive Serves : Feed → List Event → Feed → Prop where
  | done (feed : Feed) :
      Serves feed [] feed
  | begins {feed after : Feed} {stage : Stage} {place : Cursor} {log : List Event}
      (serves : Serves feed log after) :
      Serves feed (.begins stage place :: log) after
  | looks {feed after : Feed} {log : List Event}
      (serves : Serves feed.fill log after) :
      Serves feed (.looks feed.look :: log) after
  | passes {feed after : Feed} {token : Token} {log : List Event}
      (isAtHand : feed.look = .ok token)
      (isNoEnd : token.content ≠ .endOfInput)
      (serves : Serves feed.pass log after) :
      Serves feed (.passes token :: log) after

/-- The items that are still to be passed over. -/
def items (feed : Feed) : List (Except QueryError Token) :=
  feed.ahead.toList ++ feed.lexer.items

/-- A filled feed has the first of its items at hand. -/
theorem exists_item_of_fill {feed : Feed} (areWhole : Lexer.AreWhole feed.items) :
    ∃ item,
      feed.fill.ahead = some item ∧
        feed.items = item :: feed.fill.lexer.items ∧
        feed.fill.pulled ++ feed.fill.lexer.items = feed.pulled ++ feed.lexer.items ∧
        feed.fill.pulled.length = feed.pulled.length + 1 - feed.ahead.toList.length := by
  unfold items at areWhole ⊢
  unfold fill
  cases isAhead : feed.ahead with
  | some item => exact ⟨item, isAhead, rfl, rfl, rfl⟩
  | none =>
      rw [isAhead] at areWhole
      have isOn : feed.lexer.phase ≠ .finished := by
        intro isDone
        rw [Lexer.items_of_finished isDone] at areWhole
        cases areWhole
      obtain ⟨item, after, gives, _⟩ := Lexer.isStep_next isOn
      have isNext := Lexer.items_of_next gives
      simp only [gives]
      refine ⟨item, rfl, isNext, ?_, ?_⟩
      · rw [isNext, List.append_assoc]
        rfl
      · simp

theorem items_fill {feed : Feed} (areWhole : Lexer.AreWhole feed.items) :
    feed.fill.items = feed.items := by
  obtain ⟨item, isAhead, isItems, _, _⟩ := exists_item_of_fill areWhole
  rw [items, isAhead, isItems]
  rfl

/-- The feed stands before some tokens with an ending behind them. -/
structure StandsAt (feed : Feed) (tokens : List Token) (ending : Except QueryError Token) :
    Prop where
  areWhole : Lexer.AreWhole feed.items
  stream : TokenStream.ofItems feed.items = ⟨tokens, ending⟩

theorem standsAt_new (source : String) (limit : Option Nat) :
    (new source limit).StandsAt (TokenStream.ofSource source limit).tokens
      (TokenStream.ofSource source limit).ending :=
  ⟨Lexer.areWhole_items_new source limit, rfl⟩

/-- The first item of a stream is its ending or its first token. -/
theorem stream_cases {item ending : Except QueryError Token}
    {items : List (Except QueryError Token)} {tokens : List Token}
    (areWhole : Lexer.AreWhole (item :: items))
    (stream : TokenStream.ofItems (item :: items) = ⟨tokens, ending⟩) :
    (tokens = [] ∧ ending = item) ∨
      ∃ token rest,
        item = .ok token ∧ tokens = token :: rest ∧ token.content ≠ .endOfInput ∧
          Lexer.AreWhole items ∧ TokenStream.ofItems items = ⟨rest, ending⟩ := by
  cases areWhole with
  | ending position =>
      cases stream
      exact .inl ⟨rfl, rfl⟩
  | fault position fault =>
      cases stream
      exact .inl ⟨rfl, rfl⟩
  | token isNoEnd areWhole =>
      rw [TokenStream.ofItems, if_neg isNoEnd] at stream
      cases stream
      exact .inr ⟨_, _, rfl, rfl, isNoEnd, areWhole, rfl⟩

section Standing

variable {setting : Setting} {feed : Feed} {tokens : List Token}
  {ending : Except QueryError Token}

theorem StandsAt.fill (stands : feed.StandsAt tokens ending) :
    feed.fill.StandsAt tokens ending := by
  have isSame := items_fill stands.areWhole
  exact ⟨isSame ▸ stands.areWhole, isSame ▸ stands.stream⟩

/-- Who looks at a feed sees the token ahead. -/
theorem StandsAt.look_eq (stands : feed.StandsAt tokens setting.ending) (depth : Nat) :
    feed.look = peek setting ⟨tokens, depth⟩ := by
  obtain ⟨areWhole, stream⟩ := stands
  obtain ⟨item, isAhead, isItems, _, _⟩ := exists_item_of_fill areWhole
  rw [isItems] at areWhole stream
  rw [look, isAhead, Option.getD_some]
  rcases stream_cases areWhole stream with ⟨rfl, isEnding⟩ | ⟨token, rest, rfl, rfl, _⟩
  · exact isEnding.symm
  · rfl

/-- The token at hand is not the end of the query, and behind it is the next one. -/
theorem StandsAt.pass {token : Token} (stands : feed.StandsAt (token :: tokens) ending) :
    token.content ≠ .endOfInput ∧ feed.pass.StandsAt tokens ending := by
  obtain ⟨areWhole, stream⟩ := stands
  obtain ⟨item, _, isItems, _, _⟩ := exists_item_of_fill areWhole
  rw [isItems] at areWhole stream
  rcases stream_cases areWhole stream with
    ⟨isEmpty, _⟩ | ⟨other, rest, _, isSame, isNoEnd, restIsWhole, isRest⟩
  · cases isEmpty
  · obtain ⟨rfl, rfl⟩ := List.cons.inj isSame
    exact ⟨isNoEnd, restIsWhole, isRest⟩

end Standing

/-! ## What was pulled -/

/-- The number of items that were pulled and not passed over: one or none. -/
def held (feed : Feed) : Nat :=
  feed.ahead.toList.length

theorem held_le_one (feed : Feed) : feed.held ≤ 1 := by
  unfold held
  cases feed.ahead with
  | none => exact Nat.zero_le 1
  | some item => exact Nat.le_refl 1

/--
What a feed has pulled after it served a log: the next items of the lexer, one for
each token that was passed over and perhaps one that is at hand.
-/
structure HasPulled (feed : Feed) (log : List Event) (after : Feed) : Prop where
  items : after.pulled ++ after.lexer.items = feed.pulled ++ feed.lexer.items
  length :
    after.pulled.length + feed.held =
      feed.pulled.length + (passed log).length + after.held

theorem hasPulled_fill {feed : Feed} (areWhole : Lexer.AreWhole feed.items) :
    feed.HasPulled [] feed.fill ∧ feed.fill.held = 1 := by
  obtain ⟨item, isAhead, _, isSame, isLength⟩ := exists_item_of_fill areWhole
  have isOne : feed.fill.held = 1 := by
    rw [held, isAhead]
    rfl
  have isSmall := feed.held_le_one
  refine ⟨⟨isSame, ?_⟩, isOne⟩
  rw [isOne, passed_nil, List.length_nil]
  unfold held at *
  omega

/-- A feed at the start of a log serves all of it. -/
theorem exists_serves_of_walk
    {setting : Setting} {floor last : Nat} {tokens rest : List Token} {log : List Event}
    (walk : Walk setting floor tokens log last rest)
    {feed : Feed}
    (stands : feed.StandsAt tokens setting.ending) :
    ∃ after, feed.Serves log after ∧ feed.HasPulled log after := by
  induction walk generalizing feed with
  | done => exact ⟨feed, .done feed, rfl, rfl⟩
  | begins _ _ _ hypothesis =>
      obtain ⟨after, serves, pulled⟩ := hypothesis stands
      exact ⟨after, .begins serves, pulled.items, pulled.length⟩
  | @looks _ _ depth _ _ _ _ hypothesis =>
      obtain ⟨⟨isFilled, isFilledLength⟩, _⟩ := hasPulled_fill stands.areWhole
      obtain ⟨after, serves, isSame, isLength⟩ := hypothesis stands.fill
      refine ⟨after, ?_, isSame.trans isFilled, ?_⟩
      · rw [← stands.look_eq depth]
        exact .looks serves
      · rw [passed_looks]
        rw [passed_nil, List.length_nil] at isFilledLength
        omega
  | @passes _ _ token _ _ log _ hypothesis =>
      obtain ⟨⟨isFilled, isFilledLength⟩, isHeld⟩ := hasPulled_fill stands.areWhole
      obtain ⟨isNoEnd, standsBehind⟩ := stands.pass
      obtain ⟨after, serves, isSame, isLength⟩ := hypothesis standsBehind
      refine ⟨after, .passes (stands.look_eq 0) isNoEnd serves, isSame.trans isFilled, ?_⟩
      have isReleased : feed.pass.held = 0 := rfl
      have isPulled : feed.pass.pulled = feed.fill.pulled := rfl
      rw [passed_passes, List.length_cons]
      rw [passed_nil, List.length_nil] at isFilledLength
      rw [isReleased, isPulled] at isLength
      omega

end Feed

end EventQuery.Grammar
