import EventQuery.Decimal.Binary64

/-!
# JSON values

Numbers are integers or binary64 numbers, by how they are written: a number
without point and exponent is an integer.  Fields keep their order; of several
fields with one name the last one counts.
-/

namespace EventQuery

/-- A JSON value. -/
inductive Json where
  | null
  | boolean (value : Bool)
  | integer (value : Int)
  | float (value : Decimal.Binary64)
  | string (value : String)
  | array (items : List Json)
  | object (fields : List (String × Json))

namespace Json

/-- The fields of an object. -/
def fields? : Json → Option (List (String × Json))
  | object fields => some fields
  | _ => none

/-- The last of the fields with the given name. -/
def lookup? (fields : List (String × Json)) (name : String) : Option Json :=
  match fields with
  | [] => none
  | (key, value) :: others =>
      match lookup? others name with
      | some later => some later
      | none => if key = name then some value else none

/-- The value of a field of an object. -/
def field? (json : Json) (name : String) : Option Json :=
  match json with
  | object fields => lookup? fields name
  | _ => none

/-- The string that a value is. -/
def string? : Json → Option String
  | string value => some value
  | _ => none

/-- The truth value that a value is. -/
def boolean? : Json → Option Bool
  | boolean value => some value
  | _ => none

/-- The integer that a value is. -/
def integer? : Json → Option Int
  | integer value => some value
  | _ => none

/-- The items of an array. -/
def items? : Json → Option (List Json)
  | array items => some items
  | _ => none

end Json

end EventQuery
