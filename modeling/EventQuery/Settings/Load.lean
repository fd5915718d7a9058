import EventQuery.File
import EventQuery.Settings.Decode
import EventQuery.Settings.Environment
import EventQuery.Toml.Reader

/-!
# Settings of a run

Settings come from a file and from the environment, which has the last word.
A file that was asked for has to give usable settings.  Otherwise the first of
the usual files that gives usable settings is taken, and a file that does not
is as good as none.
-/

namespace EventQuery

/-- Why a file gives no settings. -/
inductive SettingsError where
  | unreadable (fault : FileFault)
  /-- The text is not well formed, or an entry is of the wrong kind. -/
  | malformed
  | unusable (fault : SettingsFault)
deriving DecidableEq, Repr

/-- The wording of an error in the file of a path. -/
def SettingsError.display (path : String) : SettingsError → String
  | unreadable fault =>
      "Failed to read config file " ++ Text.quotedPath path ++ ": " ++ fault.message
  | malformed =>
      "Failed to parse config file " ++ Text.quotedPath path ++
        ": not a table of settings"
  | unusable fault =>
      "Invalid config file " ++ Text.quotedPath path ++ ": " ++ fault.message

namespace Settings

/-- The settings that a text gives, usable or not. -/
def ofText? (text : String) : Option Settings :=
  (Toml.ofText? text).bind ofToml?

/-- The settings themselves, if they are usable. -/
def checked (settings : Settings) : Except SettingsError Settings :=
  match settings.fault? with
  | some fault => .error (.unusable fault)
  | none => .ok settings

/-- The usable settings that a text gives. -/
def ofText (text : String) : Except SettingsError Settings :=
  match ofText? text with
  | none => .error .malformed
  | some settings => settings.checked

/-- The usable settings that a file gives. -/
def ofFile (content : FileContent) : Except SettingsError Settings :=
  match content.text with
  | .error fault => .error (.unreadable fault)
  | .ok text => ofText text

/-- The settings of a file that was asked for, under an environment. -/
def load
    (environment : Environment)
    (content : FileContent) :
    Except SettingsError Settings :=
  (ofFile content).map (·.overriddenBy environment)

/-- The settings of the first file that gives usable ones. -/
def firstUsable? (candidates : List FileContent) : Option Settings :=
  candidates.findSome? fun content => (ofFile content).toOption

/-- The settings of the first usable file, or else the usual ones, under an environment. -/
def search (environment : Environment) (candidates : List FileContent) : Settings :=
  ((firstUsable? candidates).getD {}).overriddenBy environment

/-- Settings pass the check unchanged, and exactly if they are usable. -/
theorem checked_eq_ok_iff {settings result : Settings} :
    settings.checked = .ok result ↔ settings.IsUsable ∧ result = settings := by
  rw [← fault?_eq_none_iff]
  unfold checked
  cases settings.fault? <;> simp [eq_comm]

/-- The settings that a file gives are usable. -/
theorem isUsable_of_ofFile
    {content : FileContent}
    {settings : Settings}
    (given : ofFile content = .ok settings) :
    settings.IsUsable := by
  unfold ofFile ofText at given
  split at given
  · cases given
  · split at given
    · cases given
    · obtain ⟨isUsable, rfl⟩ := checked_eq_ok_iff.mp given
      exact isUsable

end Settings

end EventQuery
