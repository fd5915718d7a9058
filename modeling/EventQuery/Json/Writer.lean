import EventQuery.Decimal.Layout
import EventQuery.Json.Value

/-!
# JSON text

A value is written without any space, or over several lines with four spaces
for each level.  Strings escape the quote, the backslash and the controls and
keep every other character.
-/

namespace EventQuery.Json

/-- A control as four hexadecimal digits after `\u`. -/
def controlEscape (character : Char) : List Char :=
  let hex := Nat.toDigits 16 character.toNat
  ['\\', 'u'] ++ List.replicate (4 - hex.length) '0' ++ hex

/-- One character of a JSON string. -/
def escapedCharacter (character : Char) : List Char :=
  match character with
  | '"' => ['\\', '"']
  | '\\' => ['\\', '\\']
  | '\x08' => ['\\', 'b']
  | '\x0c' => ['\\', 'f']
  | '\n' => ['\\', 'n']
  | '\r' => ['\\', 'r']
  | '\t' => ['\\', 't']
  | _ => if character.toNat < 0x20 then controlEscape character else [character]

/-- A JSON string. -/
def stringText (value : String) : List Char :=
  '"' :: value.toList.flatMap escapedCharacter ++ ['"']

/-- A value that is neither an array nor an object. -/
def scalarText : Json → List Char
  | null => ['n', 'u', 'l', 'l']
  | boolean true => ['t', 'r', 'u', 'e']
  | boolean false => ['f', 'a', 'l', 's', 'e']
  | integer value => (Decimal.integerText value).toList
  | float value => (Decimal.jsonLayout.text value).toList
  | string value => stringText value
  | array _ => []
  | object _ => []

/-- The blanks that a written value has between its tokens. -/
structure Spacing where
  /-- What stands before an item or a closing bracket that is so many levels deep. -/
  lineStart : Nat → List Char
  /-- What stands between a colon and the value of a field. -/
  afterColon : List Char

namespace Spacing

/-- No blanks at all. -/
def none : Spacing where
  lineStart _ := []
  afterColon := []

/-- A line for each item, indented by four spaces for each level. -/
def lines : Spacing where
  lineStart level := '\n' :: List.replicate (4 * level) ' '
  afterColon := [' ']

/-- What stands before an item; all but the first follow a comma. -/
def beforeItem (spacing : Spacing) (level : Nat) (isFirst : Bool) : List Char :=
  (if isFirst then [] else [',']) ++ spacing.lineStart level

/-- What stands before a closing bracket; between two brackets there is nothing. -/
def beforeClosing (spacing : Spacing) (level : Nat) (isEmpty : Bool) : List Char :=
  if isEmpty then [] else spacing.lineStart level

end Spacing

mutual

/-- A value so many levels deep, and then the rest of the text. -/
def write (spacing : Spacing) (level : Nat) : Json → List Char → List Char
  | array items, rest =>
      '[' :: writeItems spacing (level + 1) true items
        (spacing.beforeClosing level items.isEmpty ++ ']' :: rest)
  | object fields, rest =>
      '\x7b' :: writeFields spacing (level + 1) true fields
        (spacing.beforeClosing level fields.isEmpty ++ '\x7d' :: rest)
  | scalar, rest => scalar.scalarText ++ rest

/-- The items of an array, and then the rest of the text. -/
def writeItems (spacing : Spacing) (level : Nat) (isFirst : Bool) :
    List Json → List Char → List Char
  | [], rest => rest
  | item :: items, rest =>
      spacing.beforeItem level isFirst ++
        write spacing level item (writeItems spacing level false items rest)

/-- The fields of an object, and then the rest of the text. -/
def writeFields (spacing : Spacing) (level : Nat) (isFirst : Bool) :
    List (String × Json) → List Char → List Char
  | [], rest => rest
  | (name, value) :: fields, rest =>
      spacing.beforeItem level isFirst ++ stringText name ++
        ':' :: spacing.afterColon ++
        write spacing level value (writeFields spacing level false fields rest)

end

/-- A value without any space. -/
def compact (json : Json) : String :=
  String.ofList (write .none 0 json [])

/-- A value over several lines. -/
def pretty (json : Json) : String :=
  String.ofList (write .lines 0 json [])

end EventQuery.Json
