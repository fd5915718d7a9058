import EventQuery.Settings
import EventQuery.Toml.Value

/-!
# Settings in a table

The entries of a table that are settings, by section and name.  What is missing
keeps its usual value and what is unknown is passed over, but an entry of the
wrong kind spoils the whole table.
-/

namespace EventQuery

namespace Toml

/-- A natural number. -/
def natural? : Toml → Option Nat
  | integer value => if 0 ≤ value then some value.toNat else none
  | _ => none

/-- A truth value. -/
def boolean? : Toml → Option Bool
  | boolean value => some value
  | _ => none

/-- A text. -/
def string? : Toml → Option String
  | string value => some value
  | _ => none

/--
The entries of a section.  An array lists their values in the order of the
names, and a date or time is an empty section.
-/
def entries? (names : List String) : Toml → Option (List (String × Toml))
  | table entries => some entries
  | array items => some (names.zip items)
  | moment _ => some []
  | _ => none

end Toml

/--
The value of an entry, or the usual one if there is no such entry; no value if
the entry is of the wrong kind.
-/
def entryOr {α : Type}
    (usual : α)
    (read : Toml → Option α)
    (name : String)
    (entries : List (String × Toml)) :
    Option α :=
  match entries.lookup name with
  | none => some usual
  | some value => read value

namespace Settings

/-- The settings that a table gives, if every known entry is of its kind. -/
def ofToml? (entries : List (String × Toml)) : Option Settings := do
  let usual : Settings := {}
  let section? (name : String) (names : List String) :=
    entryOr [] (Toml.entries? names) name entries
  let parser ← section? "parser" ["max_depth", "max_query_length"]
  let output ← section? "output" ["pretty"]
  let logging ← section? "logging" ["level", "format"]
  let maxDepth ← entryOr usual.maxDepth Toml.natural? "max_depth" parser
  let maxQueryLength ←
    entryOr usual.maxQueryLength (fun value => value.natural?.map some)
      "max_query_length" parser
  let pretty ← entryOr usual.pretty Toml.boolean? "pretty" output
  let logLevel ← entryOr usual.logLevel Toml.string? "level" logging
  let logFormat ← entryOr usual.logFormat Toml.string? "format" logging
  pure { maxDepth, maxQueryLength, pretty, logLevel, logFormat }

end Settings

end EventQuery
