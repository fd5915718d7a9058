import EventQuery.Proofs.Steps.Feed

/-!
# Queries are read in one pass

However a query is read, to its end or to an error, the stages of the readers begin
at later and later places, or at one place in the order of their ranks.  So no loop
comes round and no recursion comes back to a stage before a token has been passed
over, and their number is bounded by the number of tokens.  Tokens are passed over in
order, each once, and a lexer that is asked only when a token is needed gives them
all, without being asked twice for any.
-/

namespace EventQuery

namespace Grammar

/-- Whether one stage may begin after another: fewer tokens are ahead, or its rank is higher. -/
def MayFollow (first second : Stage × Cursor) : Prop :=
  second.2.size < first.2.size ∨
    second.2.tokens = first.2.tokens ∧ first.1.rank < second.1.rank

/-- A stage does not begin again before a token has been passed over. -/
theorem MayFollow.size_lt_of_stage_eq {first second : Stage × Cursor}
    (mayFollow : MayFollow first second)
    (isSame : first.1 = second.1) :
    second.2.size < first.2.size := by
  rcases mayFollow with isFurther | ⟨_, isHigher⟩
  · exact isFurther
  · rw [isSame] at isHigher
    exact absurd isHigher (Nat.lt_irrefl _)

section Walks

variable {setting : Setting} {floor last : Nat} {tokens rest : List Token} {log : List Event}

/-- What was passed over are the first tokens, each once and in order. -/
theorem Walk.tokens_eq (walk : Walk setting floor tokens log last rest) :
    tokens = passed log ++ rest := by
  induction walk with
  | done => rfl
  | begins _ _ _ hypothesis => exact hypothesis
  | looks _ hypothesis => exact hypothesis
  | passes _ hypothesis => exact congrArg _ hypothesis

/-- A stage of a walk begins further on, or at the start with at least the rank there. -/
theorem Walk.place_of_mem_begun (walk : Walk setting floor tokens log last rest)
    {stage : Stage} {place : Cursor}
    (isIn : (stage, place) ∈ begun log) :
    place.depth ≤ setting.maxDepth ∧
      (place.size < tokens.length ∨ place.tokens = tokens ∧ floor ≤ stage.rank) := by
  induction walk with
  | done => cases isIn
  | @begins floor _ depth other tokens _ _ isInOrder isShallow _ hypothesis =>
      rcases List.mem_cons.mp isIn with isFirst | isLater
      · cases isFirst
        exact ⟨isShallow, .inr ⟨rfl, isInOrder⟩⟩
      · obtain ⟨isItShallow, isFurther | ⟨isHere, isHigher⟩⟩ := hypothesis isLater
        · exact ⟨isItShallow, .inl isFurther⟩
        · exact ⟨isItShallow, .inr ⟨isHere, by omega⟩⟩
  | looks _ hypothesis => exact hypothesis isIn
  | passes _ hypothesis =>
      obtain ⟨isShallow, isFurther | ⟨isHere, _⟩⟩ := hypothesis isIn
      · exact ⟨isShallow, .inl (Nat.lt_succ_of_lt isFurther)⟩
      · refine ⟨isShallow, .inl ?_⟩
        rw [Cursor.size, isHere]
        exact Nat.lt_succ_self _

theorem Walk.pairwise_begun (walk : Walk setting floor tokens log last rest) :
    (begun log).Pairwise MayFollow := by
  induction walk with
  | done => exact .nil
  | begins _ _ walk hypothesis =>
      refine .cons ?_ hypothesis
      rintro ⟨stage, place⟩ isIn
      exact (walk.place_of_mem_begun isIn).2
  | looks _ hypothesis => exact hypothesis
  | passes _ hypothesis => exact hypothesis

/-- Every token makes room for as many stages as there are ranks. -/
theorem Walk.length_begun_le (walk : Walk setting floor tokens log last rest)
    (isRank : floor ≤ Stage.ranks) :
    (begun log).length + floor ≤ last + Stage.ranks * (passed log).length ∧
      last ≤ Stage.ranks := by
  induction walk with
  | done => exact ⟨by simp, isRank⟩
  | @begins _ _ _ stage _ _ _ isInOrder _ _ hypothesis =>
      obtain ⟨isBounded, isLast⟩ := hypothesis stage.rank_lt
      rw [begun_begins, passed_begins, List.length_cons]
      exact ⟨by omega, isLast⟩
  | looks _ hypothesis => exact hypothesis isRank
  | passes _ hypothesis =>
      obtain ⟨isBounded, isLast⟩ := hypothesis (Nat.zero_le _)
      rw [begun_passes, passed_passes, List.length_cons, Nat.mul_add_one]
      exact ⟨by omega, isLast⟩

end Walks

/-- What the log of a reader shows that goes over a query once. -/
structure IsOnePass (source : String) (limit : Option Nat) (log : List Event) : Prop where
  /-- Stages begin further and further on, and at one place in the order of their ranks. -/
  advances : (begun log).Pairwise MayFollow
  /-- No loop and no recursion comes back to a stage before a token was passed over. -/
  consumes :
    (begun log).Pairwise fun first second =>
      first.1 = second.1 → second.2.size < first.2.size
  isLinear : (begun log).length ≤ Stage.ranks * ((passed log).length + 1)
  /-- Tokens of the query are passed over in order, each once; its end is no such token. -/
  isInOrder : passed log <+: (TokenStream.ofSource source limit).tokens
  /-- A lexer that is asked only when a token is needed is asked for no item twice. -/
  pulls :
    ∃ after,
      (Feed.new source limit).Serves log after ∧
        after.pulled <+: (Lexer.new source limit).items ∧
        after.pulled.length ≤ (passed log).length + 1

theorem isOnePass_of_walk {source : String} {limit : Option Nat} {maxDepth last : Nat}
    {log : List Event} {rest : List Token}
    (walk :
      Walk ⟨(TokenStream.ofSource source limit).ending, maxDepth⟩ 0
        (TokenStream.ofSource source limit).tokens log last rest) :
    IsOnePass source limit log where
  advances := walk.pairwise_begun
  consumes := walk.pairwise_begun.imp fun mayFollow => mayFollow.size_lt_of_stage_eq
  isLinear := by
    obtain ⟨isBounded, isLast⟩ := walk.length_begun_le (Nat.zero_le _)
    rw [Nat.mul_add_one]
    omega
  isInOrder := ⟨rest, walk.tokens_eq.symm⟩
  pulls := by
    obtain ⟨after, serves, isSame, isLength⟩ :=
      Feed.exists_serves_of_walk walk (Feed.standsAt_new source limit)
    have isSmall := after.held_le_one
    have isEmpty : (Feed.new source limit).pulled = [] := rfl
    rw [isEmpty, List.length_nil] at isLength
    exact ⟨after, serves, ⟨after.lexer.items, isSame⟩, by omega⟩

end Grammar

namespace TokenStream

/-- A query read from a stream of tokens, with the log of the reading. -/
def queryLogged (stream : TokenStream) (maxDepth : Nat) : Grammar.Logged Query :=
  Grammar.Logged.query ⟨stream.ending, maxDepth⟩ ⟨stream.tokens, 0⟩

end TokenStream

namespace Query

/-- The query that a text says, within limits, with the log of the reading. -/
def parseLogged (limits : Limits) (source : String) : Grammar.Logged Query :=
  (TokenStream.ofSource source limits.maxLength).queryLogged limits.maxDepth

/--
Reading a query is one pass over its tokens, whatever the query and the limits, and
whether it is accepted or not.
-/
theorem parseWithin_isOnePass (limits : Limits) (source : String) :
    (parseLogged limits source).outcome = parseWithin limits source ∧
      Grammar.IsOnePass source limits.maxLength (parseLogged limits source).log := by
  obtain ⟨isSame, last, rest, walk, _⟩ :=
    Grammar.runsAlong_query
      ⟨(TokenStream.ofSource source limits.maxLength).ending, limits.maxDepth⟩
      (TokenStream.ofSource source limits.maxLength).tokens
  exact ⟨isSame, Grammar.isOnePass_of_walk walk⟩

end Query

end EventQuery
