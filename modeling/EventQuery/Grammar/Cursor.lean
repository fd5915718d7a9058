import EventQuery.Token.Stream

/-!
# Walking over tokens

A cursor is a place among the tokens of a query together with the depth of
nesting there.  A reader starts at a cursor and gives an error or a value and
a later cursor; the result carries the fact that tokens were used up, so every
repetition of readers ends.

Readers look one token ahead and never go back.
-/

namespace EventQuery.Grammar

/-- What stays the same while a query is read. -/
structure Setting where
  /-- What comes after the last token. -/
  ending : Except QueryError Token
  /-- How deep calls, groups and prefix operators may be nested. -/
  maxDepth : Nat

/-- A place among tokens, and how deeply it is nested. -/
structure Cursor where
  tokens : List Token
  depth : Nat

namespace Cursor

/-- The number of tokens ahead. -/
def size (cursor : Cursor) : Nat :=
  cursor.tokens.length

/-- The same place, one level deeper. -/
def deeper (cursor : Cursor) : Cursor :=
  { cursor with depth := cursor.depth + 1 }

/-- The same place, one level less deep. -/
def shallower (cursor : Cursor) : Cursor :=
  { cursor with depth := cursor.depth - 1 }

theorem size_lt_succ (cursor : Cursor) : cursor.size < cursor.size + 1 :=
  Nat.lt_succ_self _

@[simp]
theorem size_deeper (cursor : Cursor) :
    cursor.deeper.size = cursor.size :=
  rfl

@[simp]
theorem size_shallower (cursor : Cursor) :
    cursor.shallower.size = cursor.size :=
  rfl

end Cursor

/-- A value that was read and the place after it, with fewer tokens ahead than a bound. -/
structure Parsed (α : Type) (bound : Nat) where
  value : α
  cursor : Cursor
  size_lt : cursor.size < bound

/-- What a reader gives: an error, or a value and a later place. -/
abbrev Outcome (α : Type) (bound : Nat) :=
  Except QueryError (Parsed α bound)

namespace Parsed

/-- The same place after another value. -/
def map {α β : Type} {bound : Nat}
    (function : α → β)
    (parsed : Parsed α bound) :
    Parsed β bound :=
  ⟨function parsed.value, parsed.cursor, parsed.size_lt⟩

/-- The same result under a wider bound. -/
def widen {α : Type} {narrow wide : Nat}
    (parsed : Parsed α narrow)
    (isWider : narrow ≤ wide) :
    Parsed α wide :=
  ⟨parsed.value, parsed.cursor, Nat.lt_of_lt_of_le parsed.size_lt isWider⟩

/-- A value for which no token was used up. -/
def unread {α : Type} (value : α) (cursor : Cursor) : Parsed α (cursor.size + 1) :=
  ⟨value, cursor, cursor.size_lt_succ⟩

/-- The same result, one level less deep. -/
def shallower {α : Type} {bound : Nat}
    (parsed : Parsed α bound) :
    Parsed α bound :=
  ⟨parsed.value, parsed.cursor.shallower, parsed.size_lt⟩

/-- What is read after this, as seen from the place where this began. -/
def before {α β : Type} {bound : Nat}
    (parsed : Parsed α bound)
    (outcome : Outcome β parsed.cursor.size) :
    Outcome β bound :=
  outcome.map (·.widen (Nat.le_of_lt parsed.size_lt))

/-- What is read after this, if anything, as seen from the place where this began. -/
def beforeRest {α β : Type} {bound : Nat}
    (parsed : Parsed α bound)
    (outcome : Outcome β (parsed.cursor.size + 1)) :
    Outcome β bound :=
  outcome.map (·.widen parsed.size_lt)

end Parsed

/-- The same outcome for a reader that need not use up a token. -/
def Outcome.relaxed {α : Type} {bound : Nat}
    (outcome : Outcome α bound) :
    Outcome α (bound + 1) :=
  outcome.map (·.widen (Nat.le_succ _))

variable (setting : Setting)

/-- The token ahead, which may be the one at the end of the query. -/
def peek (cursor : Cursor) : Except QueryError Token :=
  match cursor.tokens with
  | token :: _ => .ok token
  | [] => setting.ending

/--
Passes over the token ahead if it is accepted, and gives what it was accepted
as.  The end of the query is never passed over.
-/
def takeIf? {α : Type}
    (cursor : Cursor)
    (accept : Token → Option α) :
    Except QueryError (Option (Parsed α cursor.size)) :=
  match equality : cursor.tokens with
  | token :: rest =>
      match accept token with
      | some value =>
          .ok (some
            ⟨value, ⟨rest, cursor.depth⟩, by simp [Cursor.size, equality]⟩)
      | none => .ok none
  | [] =>
      match setting.ending with
      | .ok _ => .ok none
      | .error error => .error error

/-- Passes over the token ahead, which has to be accepted. -/
def take {α : Type}
    (cursor : Cursor)
    (refuse : Token → QueryError)
    (accept : Token → Option α) :
    Outcome α cursor.size := do
  match ← takeIf? setting cursor accept with
  | some parsed => pure parsed
  | none =>
      let token ← peek setting cursor
      throw (refuse token)

/-- The error of a token where one of some things was expected. -/
def expecting (expected : List Expectation) (token : Token) : QueryError :=
  .unexpected token expected

/-- Accepts the tokens that say exactly this. -/
def exactly (content : TokenContent) (token : Token) : Option Token :=
  if token.content = content then some token else none

/-- Passes over a keyword, which has to be there. -/
def takeKeyword (word : Keyword) (cursor : Cursor) : Outcome Token cursor.size :=
  take setting cursor (expecting [.keyword word]) (exactly (.keyword word))

/-- Refuses a token that would lead beyond the greatest depth. -/
def checkDepth (cursor : Cursor) (token : Token) : Except QueryError Unit :=
  if cursor.depth < setting.maxDepth then
    pure ()
  else
    throw (.unexpected token [.nestingAtMost setting.maxDepth])

/-- One or more values with commas between them. -/
def commaSeparated {α : Type}
    (item : (cursor : Cursor) → Outcome α cursor.size)
    (cursor : Cursor) :
    Outcome (List α) cursor.size := do
  let first ← item cursor
  match ← takeIf? setting first.cursor (exactly .comma) with
  | none => pure (first.map fun value => [value])
  | some comma =>
      let others ← commaSeparated item comma.cursor
      first.before (comma.before (pure (others.map (first.value :: ·))))
termination_by cursor.size
decreasing_by
  exact Nat.lt_trans comma.size_lt first.size_lt

end EventQuery.Grammar
