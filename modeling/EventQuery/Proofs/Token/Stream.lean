import EventQuery.Token.Stream

/-!
# Streams without errors

A stream that was read off a text has the token at the end of the query behind
its other tokens and never among them.  So it is free of errors as soon as its
ending is a token.
-/

namespace EventQuery.TokenStream

/-- The end of the query is behind the tokens, and nowhere else. -/
structure IsErrorFree (stream : TokenStream) : Prop where
  endsWell : ∃ token, stream.ending = .ok token ∧ token.content = .endOfInput
  isUnended : ∀ token ∈ stream.tokens, token.content ≠ .endOfInput

theorem isUnended_ofItems (items : List (Except QueryError Token)) :
    ∀ token ∈ (ofItems items).tokens, token.content ≠ .endOfInput := by
  fun_induction ofItems items with
  | case1 => simp
  | case2 => simp
  | case3 => simp
  | case4 token items isNoEnd ih =>
      intro other isIn
      rcases List.mem_cons.mp isIn with rfl | isLater
      · exact isNoEnd
      · exact ih other isLater

theorem ending_ofItems
    {items : List (Except QueryError Token)} {ending : Token}
    (endsWell : (ofItems items).ending = .ok ending) :
    ending.content = .endOfInput := by
  fun_induction ofItems items with
  | case1 => cases endsWell
  | case2 => cases endsWell
  | case3 token items isEnd =>
      cases endsWell
      exact isEnd
  | case4 token items isNoEnd ih => exact ih endsWell

/-- The stream of a text is free of errors if its ending is a token. -/
theorem isErrorFree_ofSource
    {source : String} {limit : Option Nat} {ending : Token}
    (endsWell : (ofSource source limit).ending = .ok ending) :
    (ofSource source limit).IsErrorFree :=
  ⟨⟨ending, endsWell, ending_ofItems endsWell⟩, isUnended_ofItems _⟩

end EventQuery.TokenStream
