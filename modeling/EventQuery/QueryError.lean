import EventQuery.Canonical.Expression
import EventQuery.Query
import EventQuery.Token

/-!
# Errors of queries

Reading a query stops at the first fault, and an error says where it is and
what it is.  There are three kinds: characters that make no token, tokens that
the grammar does not allow, and malformed points in time.
-/

namespace EventQuery

/-- Why characters make no token. -/
inductive LexFault where
  /-- No token starts with the character. -/
  | strayCharacter (character : Char)
  /-- The quote that opens a string has no partner. -/
  | unterminatedString (quote : Char)
  | unterminatedComment
  /-- The quote that opens a name has no partner. -/
  | unterminatedName
  /-- Nothing stands between the quotes of a name. -/
  | emptyName
  /-- A whole number that does not fit into 64 bits. -/
  | numberOutOfRange (digits : List Char)
  /-- The query has more bytes than allowed; `character` is the first beyond. -/
  | tooLong (limit : Nat) (character : Char)
deriving DecidableEq

namespace LexFault

/-- The character at which the fault is reported. -/
def character : LexFault → Char
  | strayCharacter character => character
  | unterminatedString quote => quote
  | unterminatedComment => '/'
  | unterminatedName => '\x60'
  | emptyName => '\x60'
  | numberOutOfRange digits => digits.headD '0'
  | tooLong _ character => character

/-- The wording of the fault. -/
def message : LexFault → String
  | strayCharacter character =>
      "unexpected character '" ++ character.toString ++ "'"
  | unterminatedString _ => "unterminated string literal"
  | unterminatedComment => "unterminated block comment"
  | unterminatedName => "unterminated quoted identifier"
  | emptyName => "empty quoted identifier"
  | numberOutOfRange digits =>
      "number literal " ++ String.ofList digits ++ " is out of range"
  | tooLong limit _ =>
      "query exceeds the maximum length of " ++ Decimal.naturalText limit ++ " bytes"

end LexFault

/-- What the grammar would have allowed at a place. -/
inductive Expectation where
  /-- Any token at all. -/
  | token
  | keyword (word : Keyword)
  | clause (which : Clause)
  | endOfInput
  | comma
  | leftParenthesis
  | rightParenthesis
  | selectItem
  | aliasName
  | eventType
  | facetAttribute
  | expression
  | argument
  | literal
  | number
  | stringPattern
  /-- A bare attribute in front of IN or LIKE. -/
  | attributeBefore (word : Keyword)
  | condition
  | positiveInteger
  | timeUnit
  | bucketInterval
  /-- No deeper nesting than the limit. -/
  | nestingAtMost (limit : Nat)
deriving DecidableEq

/-- The wording of an expectation. -/
def Expectation.text : Expectation → String
  | token => "token"
  | keyword word => word.word
  | clause which => which.words
  | endOfInput => "end of input"
  | comma => "','"
  | leftParenthesis => "'('"
  | rightParenthesis => "')'"
  | selectItem => "aggregate function call"
  | aliasName => "alias"
  | eventType => "event type"
  | facetAttribute => "facet attribute"
  | expression => "expression"
  | argument => "argument"
  | literal => "literal"
  | number => "number"
  | stringPattern => "string pattern"
  | attributeBefore word => "attribute name before " ++ word.word
  | condition => "condition"
  | positiveInteger => "positive integer"
  | timeUnit => "time unit"
  | bucketInterval => "bucket interval"
  | nestingAtMost limit =>
      "at most " ++ Decimal.naturalText limit ++ " levels of nesting"

/-- Several alternatives in one phrase. -/
def describeAlternatives : List String → String
  | [] => "nothing"
  | [only] => only
  | alternatives =>
      "one of " ++ String.intercalate ", " alternatives.dropLast ++
        " or " ++ alternatives.getLastD ""

/-- What stands at the place of a fault of the grammar. -/
inductive Found where
  /-- A token that is not allowed there. -/
  | token (found : Token)
  /-- An operand that would have to be a condition. -/
  | operand (expression : Expression)
  /-- Nothing, not even the end of the query. -/
  | exhausted

/-- The wording of what was found. -/
def Found.text : Found → String
  | token found => found.describe
  | exhausted => "exhausted token stream"
  | operand expression =>
      match expression with
      | .literal _ => "literal " ++ expression.text
      | .wildcard => "'*'"
      | .unary .negate _ => "arithmetic expression " ++ expression.text
      | .binary (.arithmetic _) _ _ =>
          "arithmetic expression " ++ expression.text
      | _ => "expression " ++ expression.text

/-- Why tokens make no point in time. -/
inductive TimeFault where
  /-- The token starts no point in time after the words of a clause. -/
  | notAPoint (clause : Clause) (found : Token)
  /-- The number is not a positive whole one. -/
  | notAnAmount (found : Token)
  | notAUnit (found : Token)
  /-- An amount and a unit without the word that turns them to the past. -/
  | missingAgo (amount : UInt64) (unit : Token) (found : Token)
deriving DecidableEq

/-- The wording of a fault of a point in time. -/
def TimeFault.reason : TimeFault → String
  | notAPoint clause found =>
      "expected duration, TODAY, YESTERDAY, NOW or timestamp after " ++
        clause.words ++ ", found " ++ found.describe
  | notAnAmount found =>
      "duration must be a positive integer, found " ++ found.text
  | notAUnit found => "expected time unit, found " ++ found.describe
  | missingAgo amount unit found =>
      "expected AGO after '" ++ Decimal.naturalText amount.toNat ++ " " ++ unit.text ++
        "', found " ++ found.describe

/-- The fault at which reading a query stopped, and its place. -/
inductive QueryError where
  | lex (position : Position) (fault : LexFault)
  | parse
      (position : Position)
      (expected : List Expectation)
      (found : Found)
  | time (position : Position) (fault : TimeFault)

namespace QueryError

/-- The place of the fault. -/
def position : QueryError → Position
  | lex position _ => position
  | parse position _ _ => position
  | time position _ => position

/-- A token where the grammar expects something else. -/
def unexpected (token : Token) (expected : List Expectation) : QueryError :=
  parse token.position expected (.token token)

/-- A token is asked for where there is none, at no place of the query. -/
def exhausted : QueryError :=
  parse ⟨0, 0⟩ [.token] .exhausted

/-- The wording of what was expected and what was found. -/
def mismatch (expected : List Expectation) (found : Found) : String :=
  "expected " ++ describeAlternatives (expected.map Expectation.text) ++
    ", found " ++ found.text

/-- The wording of the error without its place. -/
def message : QueryError → String
  | lex _ fault => fault.message
  | parse _ expected found => mismatch expected found
  | time _ fault => "invalid time expression: " ++ fault.reason

/-- The name of the kind of error in front of its place. -/
def heading : QueryError → String
  | lex _ _ => "Lex error"
  | parse _ _ _ => "Parse error"
  | time _ _ => "Time parse error"

/-- The wording of the error after its place. -/
def detail : QueryError → String
  | lex _ fault => fault.message
  | parse _ expected found => mismatch expected found
  | time _ fault => fault.reason

/-- The error in one line: its kind, its place and its wording. -/
def display (error : QueryError) : String :=
  error.heading ++ " at line " ++ Decimal.naturalText error.position.line ++
    ", column " ++ Decimal.naturalText error.position.column ++ ": " ++ error.detail

end QueryError

end EventQuery
