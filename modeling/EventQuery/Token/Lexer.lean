import EventQuery.Token.Scan
import EventQuery.Token.Trivia

/-!
# Reading tokens off a query

A lexer holds the characters that are still to be read and their place, and
gives one token at a time.  Its last item is the token at the end of the query
or the first error; after that it gives nothing and stays where it is.

A lexer may refuse queries of more than a number of bytes.  It does so at the
first token, whatever the query holds.
-/

namespace EventQuery

/-- How far a lexer has come. -/
inductive LexerPhase where
  /-- The length of the query has not been looked at yet. -/
  | fresh
  | running
  /-- The last item has been given. -/
  | finished
deriving DecidableEq

/-- A place in a query from which tokens are read. -/
structure Lexer where
  rest : List Char
  position : Position
  /-- The greatest length of the query in bytes, if there is one. -/
  limit : Option Nat
  phase : LexerPhase

/-- The number of bytes that some characters take up. -/
def byteLength (characters : List Char) : Nat :=
  characters.foldr (fun character bytes => character.utf8Size + bytes) 0

/--
The characters that start before the given byte, and those that start at it or
after it.
-/
def splitAtByte : Nat → List Char → List Char × List Char
  | _, [] => ([], [])
  | bytes, character :: rest =>
      if bytes = 0 then
        ([], character :: rest)
      else
        let others := splitAtByte (bytes - character.utf8Size) rest
        (character :: others.1, others.2)

namespace Lexer

/-- A lexer at the start of a query. -/
def new (source : String) (limit : Option Nat) : Lexer where
  rest := source.toList
  position := .start
  limit := limit
  phase := .fresh

/--
The error of a query that is too long: it stands at the first character that
starts beyond the limit, or at the end if there is none.
-/
def overlength? (lexer : Lexer) : Option QueryError :=
  match lexer.limit with
  | none => none
  | some limit =>
      if byteLength lexer.rest ≤ limit then
        none
      else
        let split := splitAtByte limit lexer.rest
        some (.lex (lexer.position.after split.1)
          (.tooLong limit (split.2.headD ' ')))

/-- The next token of a lexer that is running, and the lexer after it. -/
def nextToken (lexer : Lexer) : Except QueryError Token × Lexer :=
  let split := skipTrivia lexer.rest
  let position := lexer.position.after split.1
  match split.2 with
  | [] =>
      (.ok (.endAt position),
        { lexer with rest := [], position := position, phase := .finished })
  | first :: others =>
      match scan first others with
      | .error fault =>
          (.error (.lex position fault),
            { lexer with
              rest := first :: others
              position := position
              phase := .finished })
      | .ok scanned =>
          (.ok ⟨scanned.content, String.ofList scanned.lexeme, position⟩,
            { lexer with
              rest := scanned.rest
              position := position.after scanned.lexeme
              phase := .running })

/-- The next item of a lexer, if it has one, and the lexer after it. -/
def next (lexer : Lexer) : Option (Except QueryError Token) × Lexer :=
  match lexer.phase with
  | .finished => (none, lexer)
  | .running =>
      let step := lexer.nextToken
      (some step.1, step.2)
  | .fresh =>
      match lexer.overlength? with
      | some error => (some (.error error), { lexer with phase := .finished })
      | none =>
          let step := lexer.nextToken
          (some step.1, step.2)

/-- The characters that are still to be read. -/
def remaining (lexer : Lexer) : String :=
  String.ofList lexer.rest

/-- An upper bound on the number of items still to come. -/
def pending (lexer : Lexer) : Nat :=
  match lexer.phase with
  | .finished => 0
  | _ => lexer.rest.length + 1

theorem pending_nextToken_lt (lexer : Lexer) :
    lexer.nextToken.2.pending < lexer.rest.length + 1 := by
  have total := congrArg List.length (skipTrivia_append lexer.rest)
  rw [List.length_append] at total
  unfold nextToken
  dsimp only
  split
  · simp [pending]
  · rename_i first others remainder
    rw [remainder, List.length_cons] at total
    split
    · simp [pending]
    · rename_i scanned found
      have shorter := rest_length_lt_of_scan found
      simp only [pending]
      omega

/-- Every item brings the lexer closer to its end. -/
theorem pending_next_lt
    {lexer after : Lexer}
    {item : Except QueryError Token}
    (gives : lexer.next = (some item, after)) :
    after.pending < lexer.pending := by
  have step := pending_nextToken_lt lexer
  unfold next at gives
  split at gives
  · simp at gives
  · rename_i phase
    simp only [Prod.mk.injEq] at gives
    simpa [pending, phase, ← gives.2] using step
  · rename_i phase
    split at gives
    · simp only [Prod.mk.injEq] at gives
      simp [pending, phase, ← gives.2]
    · simp only [Prod.mk.injEq] at gives
      simpa [pending, phase, ← gives.2] using step

/-- All items that a lexer still gives, in order. -/
def items (lexer : Lexer) : List (Except QueryError Token) :=
  match _gives : lexer.next with
  | (none, _) => []
  | (some item, after) => item :: after.items
termination_by lexer.pending
decreasing_by
  exact pending_next_lt _gives

end Lexer

end EventQuery
