import Mathlib
import EventQuery.CommandLine.Run

/-!
# Which loaded settings are usable

A file is checked, and then the environment has its word, which is not checked
as a whole.  The depth that the environment gives is positive by itself; the
format of the log is taken as it is.  So loaded settings always have a positive
depth, and they are usable exactly if the environment gives no unknown format.
-/

namespace EventQuery.Settings

/-- The ways to come to settings under an environment. -/
inductive IsLoaded (environment : Environment) : Settings → Prop where
  /-- From a file that was asked for. -/
  | asked {content : FileContent} {settings : Settings}
      (given : load environment content = .ok settings) :
      IsLoaded environment settings
  /-- From the first of the usual files that gives usable settings, if one does. -/
  | searched (candidates : List FileContent) :
      IsLoaded environment (search environment candidates)
  /-- From the environment alone. -/
  | unfiled :
      IsLoaded environment (overriddenBy {} environment)

/-! ## Settings of files -/

theorem isUsable_of_firstUsable?
    {candidates : List FileContent}
    {settings : Settings}
    (found : firstUsable? candidates = some settings) :
    settings.IsUsable := by
  obtain ⟨content, _, given⟩ := List.exists_of_findSome?_eq_some found
  cases result : ofFile content with
  | error error =>
      rw [result] at given
      cases given
  | ok other =>
      rw [result] at given
      cases given
      exact isUsable_of_ofFile result

/-- Whatever is loaded are usable settings that the environment has overridden. -/
theorem IsLoaded.exists_usable
    {environment : Environment}
    {settings : Settings}
    (isLoaded : IsLoaded environment settings) :
    ∃ usable : Settings, usable.IsUsable ∧ settings = usable.overriddenBy environment := by
  cases isLoaded with
  | @asked content _ given =>
      unfold load at given
      cases result : ofFile content with
      | error error =>
          rw [result] at given
          cases given
      | ok usable =>
          rw [result] at given
          cases given
          exact ⟨usable, isUsable_of_ofFile result, rfl⟩
  | searched candidates =>
      unfold search
      cases found : firstUsable? candidates with
      | none => exact ⟨{}, isUsable_default, rfl⟩
      | some usable => exact ⟨usable, isUsable_of_firstUsable? found, rfl⟩
  | unfiled => exact ⟨{}, isUsable_default, rfl⟩

/-- A run on a machine with a state goes on with loaded settings, or not at all. -/
theorem IsLoaded.of_host {σ : Type}
    {host : CommandLine.Host (StateM σ)}
    {path : Option String}
    {state : σ}
    {settings : Settings}
    (given : ((host.settings path).run state).1 = .ok settings) :
    IsLoaded host.environment settings := by
  cases path with
  | none =>
      cases given
      exact .searched _
  | some path =>
      have isFromFile :
          (load host.environment ((host.readFile path).run state).1).mapError
              (·.display path) =
            .ok settings :=
        given
      cases result : load host.environment ((host.readFile path).run state).1 with
      | error error =>
          rw [result] at isFromFile
          cases isFromFile
      | ok other =>
          rw [result] at isFromFile
          cases isFromFile
          exact .asked result

/-! ## Settings of the environment -/

section Overridden

variable {settings : Settings} {environment : Environment}

/-- A depth that the environment gives is positive. -/
theorem one_le_of_maxDepth? {depth : Nat}
    (given : environment.maxDepth? = some depth) :
    1 ≤ depth := by
  have isPositive := (Option.filter_eq_some_iff.mp given).2
  exact of_decide_eq_true isPositive

/-- The environment keeps a depth positive. -/
theorem one_le_maxDepth_overriddenBy
    (isPositive : 1 ≤ settings.maxDepth) :
    1 ≤ (settings.overriddenBy environment).maxDepth := by
  unfold overriddenBy
  cases given : environment.maxDepth? with
  | none => exact isPositive
  | some depth => exact one_le_of_maxDepth? given

/-- The environment keeps a format of the log known unless it gives an unknown one. -/
theorem logFormat_overriddenBy_mem_iff
    (isKnown : settings.logFormat ∈ logFormats) :
    (settings.overriddenBy environment).logFormat ∈ logFormats ↔
      ∀ format, environment.logFormat? = some format → format ∈ logFormats := by
  unfold overriddenBy
  cases given : environment.logFormat? with
  | none => simpa using isKnown
  | some format => simp

end Overridden

/--
Loaded settings have a positive depth.  They are usable exactly if the
environment gives no format of the log, or one that is known.
-/
theorem IsLoaded.isUsable_iff
    {environment : Environment}
    {settings : Settings}
    (isLoaded : IsLoaded environment settings) :
    1 ≤ settings.maxDepth ∧
      (settings.IsUsable ↔
        ∀ format, environment "NRQL_LOG_FORMAT" = some format → format ∈ logFormats) := by
  obtain ⟨usable, ⟨isPositive, isKnown⟩, rfl⟩ := isLoaded.exists_usable
  have staysPositive := @one_le_maxDepth_overriddenBy usable environment isPositive
  refine ⟨staysPositive, ?_⟩
  calc (usable.overriddenBy environment).IsUsable
      ↔ (usable.overriddenBy environment).logFormat ∈ logFormats :=
        and_iff_right staysPositive
    _ ↔ ∀ format, environment.logFormat? = some format → format ∈ logFormats :=
        logFormat_overriddenBy_mem_iff isKnown

/-- The environment in which exactly the variables of a list are set. -/
def environmentOf (values : List (String × String)) : Environment :=
  fun name => values.lookup name

/-- A depth of zero is passed over, and a known format makes loaded settings usable. -/
theorem IsLoaded.isUsable_iff_knownFormat :
    IsLoaded (environmentOf [("NRQL_MAX_DEPTH", "0"), ("NRQL_LOG_FORMAT", "json")])
        { maxDepth := 3, logFormat := "json" } ∧
      1 ≤ Settings.maxDepth { maxDepth := 3, logFormat := "json" } ∧
      IsUsable { maxDepth := 3, logFormat := "json" } := by
  have given :
      load (environmentOf [("NRQL_MAX_DEPTH", "0"), ("NRQL_LOG_FORMAT", "json")])
          (.ok "[parser]\nmax_depth = 3".toUTF8) =
        .ok { maxDepth := 3, logFormat := "json" } := by
    cbv
  obtain ⟨isPositive, isUsableIff⟩ := (IsLoaded.asked given).isUsable_iff
  refine ⟨.asked given, isPositive, isUsableIff.mpr fun format isGiven => ?_⟩
  obtain rfl : "json" = format := Option.some.inj isGiven
  decide

/-- An unknown format is taken over from the environment, so not all loaded settings are usable. -/
theorem not_isUsable_unknownFormat :
    IsLoaded (environmentOf [("NRQL_LOG_FORMAT", "xml")]) { logFormat := "xml" } ∧
      ¬ IsUsable { logFormat := "xml" } := by
  refine ⟨.unfiled, fun isUsable => ?_⟩
  exact absurd isUsable.2 (by decide)

end EventQuery.Settings
