import Mathlib
import EventQuery.CommandLine.Run
import EventQuery.Proofs.Settings.Environment

/-!
# Where settings come from

A run that names no file takes each setting from the variable of its own, if that says
a value of the setting.  Otherwise it takes it from the first of the usual files that
gives usable settings, and if there is none, it takes the usual value: `IsTaken` and
`search_isTaken`.
-/

namespace EventQuery

/-! ## The settings one by one -/

/-- One of the settings. -/
inductive Setting where
  | maxDepth
  | maxQueryLength
  | pretty
  | logLevel
  | logFormat

namespace Setting

/-- The values that a setting can have. -/
abbrev Value : Setting → Type
  | maxDepth => Nat
  | maxQueryLength => Option Nat
  | pretty => Bool
  | logLevel => String
  | logFormat => String

/-- The value that a setting has among all of them. -/
def valueIn : (setting : Setting) → Settings → setting.Value
  | maxDepth, settings => settings.maxDepth
  | maxQueryLength, settings => settings.maxQueryLength
  | pretty, settings => settings.pretty
  | logLevel, settings => settings.logLevel
  | logFormat, settings => settings.logFormat

/-- The name of the variable that can give a setting. -/
def variableName : Setting → String
  | maxDepth => "NRQL_MAX_DEPTH"
  | maxQueryLength => "NRQL_MAX_QUERY_LENGTH"
  | pretty => "NRQL_OUTPUT_PRETTY"
  | logLevel => "NRQL_LOG_LEVEL"
  | logFormat => "NRQL_LOG_FORMAT"

/-- Whether a text in the variable of a setting says a value of the setting. -/
inductive Says : (setting : Setting) → String → setting.Value → Prop where
  | maxDepth {text : String} {depth : Nat}
      (writes : WritesNatural text depth)
      (isPositive : 0 < depth) :
      Says maxDepth text depth
  | maxQueryLength {text : String} {length : Nat}
      (writes : WritesNatural text length) :
      Says maxQueryLength text (some length)
  | pretty {text : String} {value : Bool}
      (isWord : IsWordOf (truthWords value) text) :
      Says pretty text value
  | logLevel (text : String) :
      Says logLevel text text
  | logFormat (text : String) :
      Says logFormat text text

/-- Whether the environment gives a value for a setting. -/
def IsGiven (setting : Setting) (environment : Environment) (value : setting.Value) : Prop :=
  ∃ text, environment setting.variableName = some text ∧ setting.Says text value

/-- The value that a text in the variable of a setting says. -/
def read? : (setting : Setting) → String → Option setting.Value
  | maxDepth, text => (Environment.natural? text).filter (0 < ·)
  | maxQueryLength, text => (Environment.natural? text).map some
  | pretty, text => Environment.boolean? text
  | logLevel, text => some text
  | logFormat, text => some text

theorem read?_eq_some_iff {setting : Setting} {text : String} {value : setting.Value} :
    setting.read? text = some value ↔ setting.Says text value := by
  constructor
  · intro reads
    cases setting with
    | maxDepth =>
        obtain ⟨isNatural, isPositive⟩ := Option.filter_eq_some_iff.mp reads
        exact .maxDepth (Environment.natural?_eq_some_iff.mp isNatural)
          (of_decide_eq_true isPositive)
    | maxQueryLength =>
        obtain ⟨length, isNatural, rfl⟩ := Option.map_eq_some_iff.mp reads
        exact .maxQueryLength (Environment.natural?_eq_some_iff.mp isNatural)
    | pretty => exact .pretty (Environment.boolean?_eq_some_iff.mp reads)
    | logLevel =>
        cases reads
        exact .logLevel text
    | logFormat =>
        cases reads
        exact .logFormat text
  · intro isSaid
    cases isSaid with
    | maxDepth writes isPositive =>
        have isNatural := Environment.natural?_eq_some_iff.mpr writes
        exact Option.filter_eq_some_iff.mpr ⟨isNatural, decide_eq_true isPositive⟩
    | maxQueryLength writes =>
        exact Option.map_eq_some_iff.mpr ⟨_, Environment.natural?_eq_some_iff.mpr writes, rfl⟩
    | pretty isWord => exact Environment.boolean?_eq_some_iff.mpr isWord
    | logLevel => rfl
    | logFormat => rfl

/-- A setting is what the variable of its own says, or else what it was. -/
theorem valueIn_overriddenBy (setting : Setting) (settings : Settings)
    (environment : Environment) :
    setting.valueIn (settings.overriddenBy environment) =
      ((environment setting.variableName).bind setting.read?).getD
        (setting.valueIn settings) := by
  cases setting with
  | maxDepth =>
      change environment.maxDepth?.getD settings.maxDepth = _
      unfold Environment.maxDepth? variableName
      cases environment "NRQL_MAX_DEPTH" <;> rfl
  | maxQueryLength =>
      change environment.maxQueryLength?.or settings.maxQueryLength = _
      unfold Environment.maxQueryLength? variableName
      cases environment "NRQL_MAX_QUERY_LENGTH" with
      | none => rfl
      | some text =>
          change (Environment.natural? text).or _ = ((Environment.natural? text).map some).getD _
          cases Environment.natural? text <;> rfl
  | pretty => rfl
  | logLevel =>
      change (environment "NRQL_LOG_LEVEL").getD settings.logLevel = _
      unfold variableName
      cases environment "NRQL_LOG_LEVEL" <;> rfl
  | logFormat =>
      change (environment "NRQL_LOG_FORMAT").getD settings.logFormat = _
      unfold variableName
      cases environment "NRQL_LOG_FORMAT" <;> rfl

end Setting

/-! ## Files that give settings -/

namespace Settings

/-- Whether a file holds a text that gives settings, and these are usable. -/
def AreHeldBy (settings : Settings) (content : FileContent) : Prop :=
  ∃ text, content.text = .ok text ∧ ofText? text = some settings ∧ settings.IsUsable

/-- Whether a file gives no usable settings, whatever keeps it from that. -/
def IsUseless (content : FileContent) : Prop :=
  ∀ settings : Settings, ¬ settings.AreHeldBy content

/-- Whether settings are those of the first of some files that gives usable ones. -/
def AreFirstIn (settings : Settings) (candidates : List FileContent) : Prop :=
  ∃ front content back,
    candidates = front ++ content :: back ∧
      settings.AreHeldBy content ∧ ∀ other ∈ front, IsUseless other

theorem ofFile_eq_ok_iff {content : FileContent} {settings : Settings} :
    ofFile content = .ok settings ↔ settings.AreHeldBy content := by
  unfold ofFile ofText AreHeldBy
  cases content.text with
  | error fault => simp
  | ok text =>
      cases isGiven : ofText? text with
      | none => simp [isGiven]
      | some given =>
          simp only [isGiven, checked_eq_ok_iff, Except.ok.injEq, exists_eq_left',
            Option.some.injEq]
          constructor
          · rintro ⟨isUsable, rfl⟩
            exact ⟨rfl, isUsable⟩
          · rintro ⟨rfl, isUsable⟩
            exact ⟨isUsable, rfl⟩

theorem toOption_ofFile_eq_some_iff {content : FileContent} {settings : Settings} :
    (ofFile content).toOption = some settings ↔ settings.AreHeldBy content := by
  rw [← ofFile_eq_ok_iff]
  cases ofFile content <;> simp [Except.toOption]

theorem toOption_ofFile_eq_none_iff {content : FileContent} :
    (ofFile content).toOption = none ↔ IsUseless content := by
  unfold IsUseless
  simp only [← toOption_ofFile_eq_some_iff]
  exact Option.eq_none_iff_forall_ne_some

theorem isUseless_missing : IsUseless (.error .missing) := by
  rintro settings ⟨text, isText, _⟩
  cases isText

theorem firstUsable?_eq_some_iff {candidates : List FileContent} {settings : Settings} :
    firstUsable? candidates = some settings ↔ settings.AreFirstIn candidates := by
  unfold firstUsable? AreFirstIn
  rw [List.findSome?_eq_some_iff]
  simp only [toOption_ofFile_eq_none_iff, toOption_ofFile_eq_some_iff]

theorem firstUsable?_eq_none_iff {candidates : List FileContent} :
    firstUsable? candidates = none ↔ ∀ content ∈ candidates, IsUseless content := by
  unfold firstUsable?
  rw [List.findSome?_eq_none_iff]
  simp only [toOption_ofFile_eq_none_iff]

/-- A file that gives no settings is as good as any other one that gives none. -/
theorem firstUsable?_append_cons {content : FileContent} (isUseless : IsUseless content)
    (front back : List FileContent) :
    firstUsable? (front ++ content :: back) = firstUsable? (front ++ back) := by
  have givesNone := toOption_ofFile_eq_none_iff.mpr isUseless
  simp [firstUsable?, List.findSome?_append, givesNone]

end Settings

/-! ## Settings of a run that names no file -/

/-- Where the value of a setting is taken from, in an environment and with usual files. -/
inductive Setting.IsTaken (setting : Setting) (environment : Environment)
    (candidates : List FileContent) : setting.Value → Prop where
  /-- From the variable of the setting. -/
  | environment {value : setting.Value}
      (isGiven : setting.IsGiven environment value) :
      IsTaken setting environment candidates value
  /-- From the first file that gives usable settings. -/
  | file {settings : Settings}
      (isNotGiven : ∀ value, ¬ setting.IsGiven environment value)
      (areFirst : settings.AreFirstIn candidates) :
      IsTaken setting environment candidates (setting.valueIn settings)
  /-- From nowhere: it is the usual one. -/
  | usual
      (isNotGiven : ∀ value, ¬ setting.IsGiven environment value)
      (areUseless : ∀ content ∈ candidates, Settings.IsUseless content) :
      IsTaken setting environment candidates (setting.valueIn {})

namespace Settings

variable {environment : Environment} {candidates : List FileContent}

/-- The value of a setting is the one that its variable says, or the one of a file. -/
theorem valueIn_search (setting : Setting) :
    setting.valueIn (search environment candidates) =
      ((environment setting.variableName).bind setting.read?).getD
        (setting.valueIn ((firstUsable? candidates).getD {})) :=
  setting.valueIn_overriddenBy _ environment

theorem bind_read?_eq_some_iff {setting : Setting} {value : setting.Value} :
    (environment setting.variableName).bind setting.read? = some value ↔
      setting.IsGiven environment value := by
  rw [Option.bind_eq_some_iff]
  simp only [Setting.read?_eq_some_iff, Setting.IsGiven]

theorem valueIn_search_iff {setting : Setting} {value : setting.Value} :
    setting.valueIn (search environment candidates) = value ↔
      setting.IsTaken environment candidates value := by
  rw [valueIn_search]
  constructor
  · rintro rfl
    cases isSaid : (environment setting.variableName).bind setting.read? with
    | some value => exact .environment (bind_read?_eq_some_iff.mp isSaid)
    | none =>
        have isNotGiven : ∀ value, ¬ setting.IsGiven environment value := by
          intro value isGiven
          rw [bind_read?_eq_some_iff.mpr isGiven] at isSaid
          cases isSaid
        cases found : firstUsable? candidates with
        | some settings => exact .file isNotGiven (firstUsable?_eq_some_iff.mp found)
        | none => exact .usual isNotGiven (firstUsable?_eq_none_iff.mp found)
  · intro isTaken
    have saysNothing (isNotGiven : ∀ value, ¬ setting.IsGiven environment value) :
        (environment setting.variableName).bind setting.read? = none :=
      Option.eq_none_iff_forall_ne_some.mpr fun value isSaid =>
        isNotGiven value (bind_read?_eq_some_iff.mp isSaid)
    cases isTaken with
    | environment isGiven => rw [bind_read?_eq_some_iff.mpr isGiven, Option.getD_some]
    | file isNotGiven areFirst =>
        rw [saysNothing isNotGiven, firstUsable?_eq_some_iff.mpr areFirst]
        rfl
    | usual isNotGiven areUseless =>
        rw [saysNothing isNotGiven, firstUsable?_eq_none_iff.mpr areUseless]
        rfl

/--
A run that names no file has each of its settings from where the order of precedence
says, whatever the other variables hold, and a file that gives no usable settings is as
good as a missing one.
-/
theorem search_isTaken (environment : Environment) (candidates : List FileContent) :
    (∀ (σ : Type) (host : CommandLine.Host (StateM σ)) (state : σ),
        host.environment = environment →
          ((host.candidates).run state).1 = candidates →
            ((host.settings none).run state).1 = .ok (search environment candidates)) ∧
      (∀ (setting : Setting) (value : setting.Value),
        setting.valueIn (search environment candidates) = value ↔
          setting.IsTaken environment candidates value) ∧
      (∀ (setting : Setting) (other : Environment),
        other setting.variableName = environment setting.variableName →
          setting.valueIn (search other candidates) =
            setting.valueIn (search environment candidates)) ∧
      ∀ front content back,
        candidates = front ++ content :: back →
          IsUseless content →
            search environment (front ++ .error .missing :: back) =
              search environment candidates := by
  refine ⟨?_, fun setting value => valueIn_search_iff, ?_, ?_⟩
  · rintro σ host state rfl rfl
    rfl
  · intro setting other same
    rw [valueIn_search, valueIn_search, same]
  · rintro front content back rfl isUseless
    unfold search
    rw [firstUsable?_append_cons isUseless, firstUsable?_append_cons isUseless_missing]

/-- An environment with a depth of zero and with a word between blanks. -/
def zeroDepthEnvironment : Environment :=
  fun name => [("NRQL_MAX_DEPTH", "0"), ("NRQL_OUTPUT_PRETTY", " No\n")].lookup name

/-- A file that is no table of settings, and one behind it that gives a depth. -/
def brokenAndDepth : List FileContent :=
  [.ok "=".toUTF8, .ok "[parser]\nmax_depth = 3".toUTF8]

theorem search_brokenAndDepth :
    search zeroDepthEnvironment brokenAndDepth = { maxDepth := 3, pretty := false } := by
  cbv

/-- A depth of zero and a broken file are passed over, and a word in another variable is not. -/
theorem search_isTaken_zeroDepth :
    Setting.maxDepth.IsTaken zeroDepthEnvironment brokenAndDepth (3 : Nat) ∧
      Setting.pretty.IsTaken zeroDepthEnvironment brokenAndDepth false ∧
      search zeroDepthEnvironment (.error .missing :: brokenAndDepth.tail) =
        { maxDepth := 3, pretty := false } := by
  obtain ⟨_, isTaken, _, isReplaced⟩ := search_isTaken zeroDepthEnvironment brokenAndDepth
  have isMalformed : ofFile (.ok "=".toUTF8) = .error .malformed := by cbv
  have isUseless : IsUseless (.ok "=".toUTF8) :=
    toOption_ofFile_eq_none_iff.mp (congrArg Except.toOption isMalformed)
  rw [search_brokenAndDepth] at isTaken isReplaced
  exact
    ⟨(isTaken .maxDepth 3).mp rfl, (isTaken .pretty false).mp rfl,
      isReplaced [] _ _ rfl isUseless⟩

end Settings

end EventQuery
