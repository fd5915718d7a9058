/-!
# Values of a configuration file

Only what a configuration asks for is kept of a value: decimal numbers and
dates are known by their text alone.
-/

namespace EventQuery

/-- A TOML value. -/
inductive Toml where
  | string (value : String)
  | integer (value : Int)
  /-- A decimal number, infinity or not-a-number, as it is written. -/
  | float (text : String)
  | boolean (value : Bool)
  /-- A date, a time or both, as it is written. -/
  | moment (text : String)
  | array (items : List Toml)
  | table (entries : List (String × Toml))

end EventQuery
