import EventQuery.Grammar.Query
import EventQuery.Text.Quoted

/-!
# Settings

How queries are bounded, how trees are printed, and what is logged.  Settings
that a file gives have to be usable: the depth is positive and the format of
the log is one of two.
-/

namespace EventQuery

/-- What a run can be told to do otherwise than usual. -/
structure Settings where
  /-- How deep calls, groups and prefix operators may be nested. -/
  maxDepth : Nat := 64
  /-- The greatest length of a query in bytes, if there is one. -/
  maxQueryLength : Option Nat := none
  /-- Whether trees are printed over several lines. -/
  pretty : Bool := true
  /-- From which level on messages are logged. -/
  logLevel : String := "warn"
  /-- How messages are logged. -/
  logFormat : String := "pretty"
deriving DecidableEq, Repr

/-- Why settings are not usable. -/
inductive SettingsFault where
  | zeroDepth
  | unknownFormat (format : String)
deriving DecidableEq, Repr

/-- The wording of a fault. -/
def SettingsFault.message : SettingsFault → String
  | zeroDepth => "parser.max_depth must be at least 1"
  | unknownFormat format =>
      "logging.format must be \"pretty\" or \"json\", got " ++ Text.quoted format

namespace Settings

/-- The formats in which messages can be logged. -/
def logFormats : List String := ["pretty", "json"]

/-- Usable settings have a positive depth and a known format. -/
def IsUsable (settings : Settings) : Prop :=
  1 ≤ settings.maxDepth ∧ settings.logFormat ∈ logFormats

/-- The first fault of settings that are not usable. -/
def fault? (settings : Settings) : Option SettingsFault :=
  if settings.maxDepth = 0 then
    some .zeroDepth
  else if settings.logFormat ∈ logFormats then
    none
  else
    some (.unknownFormat settings.logFormat)

/-- Exactly the usable settings have no fault. -/
theorem fault?_eq_none_iff (settings : Settings) :
    settings.fault? = none ↔ settings.IsUsable := by
  unfold fault? IsUsable
  split
  · rename_i isZero
    simp [isZero]
  · rename_i isPositive
    split
    · rename_i isKnown
      simp only [isKnown, and_true, true_iff]
      omega
    · rename_i isUnknown
      simp [isUnknown]

/-- The usual settings are usable. -/
theorem isUsable_default : IsUsable {} :=
  ⟨by decide, by decide⟩

/-- The greatest length that a machine word can hold, which no text exceeds. -/
def boundlessLength : Nat := UInt64.size - 1

/-- The bounds on queries. -/
def limits (settings : Settings) : Limits where
  maxDepth := settings.maxDepth
  maxLength := settings.maxQueryLength.filter (· != boundlessLength)

end Settings

end EventQuery
