import EventQuery.Decimal.Digits
import EventQuery.Settings
import EventQuery.Text.Blank
import EventQuery.Text.Case

/-!
# Settings in the environment

Each setting can be given by a variable of the environment.  A variable that
does not hold a value of its setting is passed over; the texts of the two
settings of the log are taken as they are.
-/

namespace EventQuery

/-- The value of each variable that is set. -/
abbrev Environment := String → Option String

namespace Environment

/-- The names of the variables that give settings. -/
def settingNames : List String := [
  "NRQL_MAX_DEPTH",
  "NRQL_MAX_QUERY_LENGTH",
  "NRQL_OUTPUT_PRETTY",
  "NRQL_LOG_LEVEL",
  "NRQL_LOG_FORMAT"]

/-- The characters after a plus sign, if there is one. -/
def afterPlusSign : List Char → List Char
  | '+' :: rest => rest
  | rest => rest

/-- The natural number below 2⁶⁴ that a text says in digits, perhaps with a plus sign. -/
def natural? (text : String) : Option Nat :=
  let digits := afterPlusSign text.toList
  let value := Decimal.ofDigits digits
  if digits ≠ [] ∧ digits.all Char.isDigit ∧ value < UInt64.size then
    some value
  else
    none

/-- The truth value that a word says, with or without blanks around it, in either case. -/
def boolean? (text : String) : Option Bool :=
  let word := Text.lowercase (String.ofList (Text.trimBlanks text.toList))
  if word ∈ ["1", "true", "yes", "on"] then
    some true
  else if word ∈ ["0", "false", "no", "off"] then
    some false
  else
    none

variable (environment : Environment)

/-- The depth that the environment gives; it has to be positive. -/
def maxDepth? : Option Nat :=
  ((environment "NRQL_MAX_DEPTH").bind natural?).filter (0 < ·)

/-- The greatest length of a query that the environment gives. -/
def maxQueryLength? : Option Nat :=
  (environment "NRQL_MAX_QUERY_LENGTH").bind natural?

/-- Whether the environment wants trees over several lines. -/
def pretty? : Option Bool :=
  (environment "NRQL_OUTPUT_PRETTY").bind boolean?

/-- The level of the log that the environment gives. -/
def logLevel? : Option String :=
  environment "NRQL_LOG_LEVEL"

/-- The format of the log that the environment gives. -/
def logFormat? : Option String :=
  environment "NRQL_LOG_FORMAT"

end Environment

/-- Settings with those that the environment gives in place of their own. -/
def Settings.overriddenBy (settings : Settings) (environment : Environment) : Settings where
  maxDepth := environment.maxDepth?.getD settings.maxDepth
  maxQueryLength := environment.maxQueryLength?.or settings.maxQueryLength
  pretty := environment.pretty?.getD settings.pretty
  logLevel := environment.logLevel?.getD settings.logLevel
  logFormat := environment.logFormat?.getD settings.logFormat

end EventQuery
