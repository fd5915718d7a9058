import EventQuery.Token.Lexer

/-!
# Token streams

A query is a list of tokens and an ending: the token at its end, or the error
at which its characters stop making tokens.  An error in the ending concerns
only a reader that gets so far.
-/

namespace EventQuery

/-- The tokens of a query and what comes after them. -/
structure TokenStream where
  tokens : List Token
  ending : Except QueryError Token

namespace TokenStream

/-- A stream with one more token in front. -/
def cons (token : Token) (stream : TokenStream) : TokenStream :=
  { stream with tokens := token :: stream.tokens }

/--
The items of a lexer as a stream: the first end or error is its ending.  Items
without either would leave a reader that gets behind them with nothing to read.
-/
def ofItems : List (Except QueryError Token) → TokenStream
  | [] => ⟨[], .error .exhausted⟩
  | .error error :: _ => ⟨[], .error error⟩
  | .ok token :: items =>
      if token.content = .endOfInput then
        ⟨[], .ok token⟩
      else
        cons token (ofItems items)

/-- The stream of a query of at most so many bytes, if there is a limit. -/
def ofSource (source : String) (limit : Option Nat) : TokenStream :=
  ofItems (Lexer.new source limit).items

end TokenStream

end EventQuery
