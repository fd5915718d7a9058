import EventQuery.Grammar.Query

/-!
# Logs of readers

A logged run of a reader gives what the reader gives, together with what it did
on the way: the productions and loops that it began, the times it looked at the
token ahead, and the tokens that it passed over.  An error ends the log.

The readers themselves are logged in the next module.
-/

namespace EventQuery.Grammar

/-- The productions of the grammar, and the heads of its loops. -/
inductive Stage where
  | query
  | clauseBody
  /-- An item of a list with commas between the items. -/
  | listItem
  | selectItem
  | column
  | timeSpec
  | duration
  | bucketing
  | arguments
  | testBody
  | literalList
  /-- An item of a list that ends with a closing parenthesis. -/
  | closedItem
  | literal
  | argument
  | chain (connective : Connective)
  | negation
  | comparison
  | arithmetic
  | signed
  | primary
  /-- The operators that follow an operand and bind at least so tightly. -/
  | arithmeticAfter (least : Nat)
  | testAfter
  /-- The connectives that follow an operand. -/
  | chainAfter (connective : Connective)
  | optionalClauses

/--
The order in which stages may begin at one place: first the productions from the
loosest to the tightest, then the loops behind an operand, from the tightest to the
loosest.
-/
def Stage.rank : Stage → Nat
  | query => 0
  | clauseBody => 1
  | listItem => 2
  | selectItem => 3
  | column => 4
  | timeSpec => 5
  | duration => 5
  | bucketing => 5
  | arguments => 6
  | testBody => 6
  | literalList => 7
  | closedItem => 8
  | literal => 9
  | argument => 9
  | chain .or => 10
  | chain .and => 11
  | negation => 12
  | comparison => 13
  | arithmetic => 14
  | signed => 15
  | primary => 16
  | arithmeticAfter least => 27 - least
  | testAfter => 28
  | chainAfter .and => 29
  | chainAfter .or => 30
  | optionalClauses => 31

/-- The number of ranks. -/
def Stage.ranks : Nat := 32

theorem Stage.rank_lt (stage : Stage) : stage.rank < ranks := by
  cases stage with
  | chain connective => cases connective <;> decide
  | chainAfter connective => cases connective <;> decide
  | arithmeticAfter least => exact Nat.lt_of_le_of_lt (Nat.sub_le 27 least) (by decide)
  | _ => decide

/-- One thing that a reader does. -/
inductive Event where
  | begins (stage : Stage) (place : Cursor)
  /-- Looking at the token ahead, and what is found there. -/
  | looks (seen : Except QueryError Token)
  | passes (token : Token)

/-- The tokens that were passed over, in order. -/
def passed : List Event → List Token
  | [] => []
  | .passes token :: log => token :: passed log
  | .begins _ _ :: log => passed log
  | .looks _ :: log => passed log

@[simp]
theorem passed_nil : passed [] = [] :=
  rfl

@[simp]
theorem passed_passes (token : Token) (log : List Event) :
    passed (.passes token :: log) = token :: passed log :=
  rfl

@[simp]
theorem passed_looks (seen : Except QueryError Token) (log : List Event) :
    passed (.looks seen :: log) = passed log :=
  rfl

@[simp]
theorem passed_begins (stage : Stage) (place : Cursor) (log : List Event) :
    passed (.begins stage place :: log) = passed log :=
  rfl

/-- The stages that began, and where, in order. -/
def begun : List Event → List (Stage × Cursor)
  | [] => []
  | .begins stage place :: log => (stage, place) :: begun log
  | .passes _ :: log => begun log
  | .looks _ :: log => begun log

@[simp]
theorem begun_nil : begun [] = [] :=
  rfl

@[simp]
theorem begun_begins (stage : Stage) (place : Cursor) (log : List Event) :
    begun (.begins stage place :: log) = (stage, place) :: begun log :=
  rfl

@[simp]
theorem begun_passes (token : Token) (log : List Event) :
    begun (.passes token :: log) = begun log :=
  rfl

@[simp]
theorem begun_looks (seen : Except QueryError Token) (log : List Event) :
    begun (.looks seen :: log) = begun log :=
  rfl

/-- What a run of a reader does, and what it gives. -/
structure Logged (α : Type) where
  log : List Event
  outcome : Except QueryError α

namespace Logged

variable {α β : Type}

/-- A result for which nothing is done. -/
def quiet (outcome : Except QueryError α) : Logged α :=
  ⟨[], outcome⟩

/-- A run that goes on, unless it has failed. -/
def andThen (run : Logged α) (next : α → Logged β) : Logged β :=
  match run.outcome with
  | .ok value => ⟨run.log ++ (next value).log, (next value).outcome⟩
  | .error error => ⟨run.log, .error error⟩

instance : Monad Logged where
  pure value := quiet (.ok value)
  bind := andThen

/-- The same run with its result seen in another way. -/
def through
    (run : Logged α)
    (change : Except QueryError α → Except QueryError β) :
    Logged β :=
  ⟨run.log, change run.outcome⟩

/-- The start of a stage. -/
def start (stage : Stage) (place : Cursor) : Logged Unit :=
  ⟨[.begins stage place], .ok ()⟩

variable (setting : Setting)

/-- The token ahead, which is looked at. -/
def peek (cursor : Cursor) : Logged Token :=
  ⟨[.looks (Grammar.peek setting cursor)], Grammar.peek setting cursor⟩

/-- Looks at the token ahead, and passes over it if it is accepted. -/
def takeIf?
    (cursor : Cursor)
    (accept : Token → Option α) :
    Logged (Option (Parsed α cursor.size)) :=
  let passed :=
    match Grammar.takeIf? setting cursor accept, cursor.tokens with
    | .ok (some _), token :: _ => [.passes token]
    | _, _ => []
  ⟨.looks (Grammar.peek setting cursor) :: passed,
    Grammar.takeIf? setting cursor accept⟩

/-- Passes over the token ahead, which has to be accepted. -/
def take
    (cursor : Cursor)
    (refuse : Token → QueryError)
    (accept : Token → Option α) :
    Logged (Parsed α cursor.size) := do
  match ← takeIf? setting cursor accept with
  | some parsed => pure parsed
  | none =>
      let token ← peek setting cursor
      quiet (throw (refuse token))

/-- Passes over a keyword, which has to be there. -/
def takeKeyword (word : Keyword) (cursor : Cursor) : Logged (Parsed Token cursor.size) :=
  take setting cursor (expecting [.keyword word]) (exactly (.keyword word))

end Logged

end EventQuery.Grammar
