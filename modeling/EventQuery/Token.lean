import EventQuery.Keyword
import EventQuery.Number
import EventQuery.Operator
import EventQuery.Position

/-!
# Tokens

A token is a run of characters of a query together with what the run says and
where it starts.  The end of the query is a token too, with no characters.
-/

namespace EventQuery

/-- What a token says. -/
inductive TokenContent where
  /-- A word with a meaning of its own. -/
  | keyword (keyword : Keyword)
  /-- A name, and whether it stands in quotes of its own. -/
  | name (name : String) (isQuoted : Bool)
  /-- A number without sign. -/
  | number (value : Number)
  /-- A string, with its escapes resolved. -/
  | string (value : String)
  | comparison (operator : Comparison)
  | arithmetic (operator : Arithmetic)
  | comma
  | leftParenthesis
  | rightParenthesis
  | endOfInput
deriving DecidableEq

/-- A token: what it says, its characters, and the place of the first of them. -/
structure Token where
  content : TokenContent
  text : String
  position : Position
deriving DecidableEq

namespace Token

/-- The token at the end of a query. -/
def endAt (position : Position) : Token where
  content := .endOfInput
  text := ""
  position := position

/--
The name that a token can stand for.  Names qualify, bare or quoted, and so
does every keyword that is not reserved, as it is spelled.
-/
def name? (token : Token) : Option String :=
  match token.content with
  | .name name _ => some name
  | .keyword keyword => if keyword.isReserved then none else some token.text
  | _ => none

/-- The string that a token says. -/
def string? (token : Token) : Option String :=
  match token.content with
  | .string value => some value
  | _ => none

/-- The number that a token says. -/
def number? (token : Token) : Option Number :=
  match token.content with
  | .number value => some value
  | _ => none

/-- The truth value of a word; a quoted name is never one. -/
def boolean? (token : Token) : Option Bool :=
  match token.content with
  | .name name false =>
      if Text.agreeIgnoringCase name "true" then
        some true
      else if Text.agreeIgnoringCase name "false" then
        some false
      else
        none
  | _ => none

/-- The unit of time that a token names. -/
def timeUnit? (token : Token) : Option TimeUnit :=
  match token.content with
  | .keyword (.unitWord unit) => some unit
  | _ => none

/-- The amount that a token gives: a positive whole number. -/
def amount? (token : Token) : Option UInt64 :=
  match token.content with
  | .number (.integer value) =>
      if 0 < value.toInt then some value.toUInt64 else none
  | _ => none

/-- How messages refer to the token. -/
def describe (token : Token) : String :=
  match token.content with
  | .keyword keyword => "keyword " ++ keyword.word
  | .name _ _ => "identifier " ++ token.text
  | .number _ => "number " ++ token.text
  | .string _ => "string " ++ token.text
  | .endOfInput => "end of input"
  | _ => "'" ++ token.text ++ "'"

end Token

end EventQuery
