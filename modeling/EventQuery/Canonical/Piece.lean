import EventQuery.Decimal.Layout
import EventQuery.Keyword
import EventQuery.Operator

/-!
# The pieces of canonical text

Canonical text is built from pieces.  Each piece is a space or one token as it
is written, so a text says at the same time which tokens it is meant to hold.
Keywords are in capital letters, strings between single quotes, and names
between quotes of their own unless they are plain words.
-/

namespace EventQuery

/-- A part of a canonical text. -/
inductive Piece where
  | space
  | keyword (word : Keyword)
  /-- A unit of time, in the number of its amount. -/
  | timeUnit (amount : UInt64) (unit : TimeUnit)
  | name (name : String)
  | string (value : String)
  | boolean (value : Bool)
  /-- A whole number without sign. -/
  | whole (value : Nat)
  /-- A decimal number without sign, by its rank. -/
  | decimal (rank : Nat)
  | comparison (operator : Comparison)
  | arithmetic (operator : Arithmetic)
  | comma
  | leftParenthesis
  | rightParenthesis
deriving DecidableEq

/--
Whether a name can stand without quotes: an ASCII word that is neither a truth
value nor a reserved keyword.
-/
def isPlainName (name : String) : Bool :=
  match name.toList with
  | [] => false
  | first :: others =>
      (first.isAlpha || first == '_') &&
        others.all (fun character => character.isAlphanum || character == '_') &&
        !Text.agreeIgnoringCase name "true" &&
        !Text.agreeIgnoringCase name "false" &&
        (match Keyword.ofText? name with
          | some keyword => !keyword.isReserved
          | none => true)

/-- A name as it is written: plain, or between quotes of its own. -/
def nameText (name : String) : String :=
  if isPlainName name then name else "\x60" ++ name ++ "\x60"

/-- One character of a string as it is written. -/
def escapedCharacter : Char → List Char
  | '\'' => ['\\', '\'']
  | '\\' => ['\\', '\\']
  | '\n' => ['\\', 'n']
  | '\t' => ['\\', 't']
  | '\r' => ['\\', 'r']
  | character => [character]

/-- A string as it is written: between single quotes, with escapes. -/
def stringText (value : String) : String :=
  String.ofList ('\'' :: value.toList.flatMap escapedCharacter ++ ['\''])

namespace Piece

/-- The characters of a piece. -/
def text : Piece → String
  | space => " "
  | keyword word => word.word
  | timeUnit amount unit => Text.uppercase (unit.nameFor amount)
  | name value => nameText value
  | string value => stringText value
  | boolean value => if value then "true" else "false"
  | whole value => Decimal.naturalText value
  | decimal rank =>
      Decimal.literalLayout.text (Decimal.Binary64.ofRank false rank)
  | comparison operator => operator.symbol
  | arithmetic operator => operator.symbol
  | comma => ","
  | leftParenthesis => "("
  | rightParenthesis => ")"

/-- The characters of a row of pieces. -/
def textOf (pieces : List Piece) : String :=
  String.join (pieces.map text)

/-- Rows of pieces with a comma and a space between them. -/
def separated : List (List Piece) → List Piece
  | [] => []
  | [row] => row
  | row :: rows => row ++ [comma, space] ++ separated rows

/-- A row of pieces, in parentheses if so demanded. -/
def enclosed (inParentheses : Bool) (pieces : List Piece) : List Piece :=
  if inParentheses then
    leftParenthesis :: pieces ++ [rightParenthesis]
  else
    pieces

/-- A minus sign, or nothing. -/
def sign (negative : Bool) : List Piece :=
  if negative then [arithmetic .subtract] else []

end Piece

end EventQuery
