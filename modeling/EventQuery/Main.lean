import EventQuery.CommandLine.Run

/-!
# The program

Runs on the machine itself: its environment, its standard streams and its files.
-/

namespace EventQuery.Main

open EventQuery.CommandLine

/-- The number of a system error, which some operations give with a minus sign. -/
def errorNumber (code : UInt32) : UInt32 :=
  if 0x7FFFFFFF < code then 0 - code else code

/-- The fault that a file operation ended with. -/
def faultOfError (error : IO.Error) : FileFault :=
  match error with
  | .noFileOrDirectory _ _ _ => .missing
  | .inappropriateType _ code _ =>
      match errorNumber code with
      | 20 => .notDirectory
      | 21 => .isDirectory
      | _ => .other error.toString
  | _ => .other error.toString

/-- The result of a file operation, or its fault. -/
def attempt {α : Type} (operation : IO α) : IO (Except FileFault α) := do
  match ← operation.toBaseIO with
  | .ok value => pure (.ok value)
  | .error error => pure (.error (faultOfError error))

/-- The variables of the environment that give settings. -/
def readEnvironment : IO Environment := do
  let values ← Environment.settingNames.mapM fun name => do
    pure (name, ← IO.getEnv name)
  pure fun name => (values.lookup name).join

/-- The directory in which programs keep the settings of the user. -/
def configDirectory? : IO (Option String) := do
  match ← IO.getEnv "XDG_CONFIG_HOME" with
  | some directory =>
      if directory.startsWith "/" then
        return some directory
      else
        homeConfig?
  | none => homeConfig?
where
  /-- The usual directory below the home directory. -/
  homeConfig? : IO (Option String) := do
    pure ((← IO.getEnv "HOME").map (· ++ "/.config"))

/-- The settings file of the user. -/
def readUserSettings : IO FileContent := do
  match ← configDirectory? with
  | some directory => attempt (IO.FS.readBinFile (directory ++ "/nrql/config.toml"))
  | none => pure (.error .missing)

/-- All bytes of a stream. -/
partial def readAll (stream : IO.FS.Stream) (before : ByteArray) : IO ByteArray := do
  let bytes ← stream.read 65536
  if bytes.isEmpty then
    pure before
  else
    readAll stream (before ++ bytes)

/-- The machine as a host. -/
def machine (environment : Environment) : Host IO where
  environment := environment
  userSettings := readUserSettings
  readInput := do
    let input ← IO.getStdin
    attempt (readAll input ByteArray.empty)
  readFile path := attempt (IO.FS.readBinFile path)
  writeFile path text := attempt (IO.FS.writeFile path text)

end EventQuery.Main

/-- Runs the program with some arguments; the result is the exit code. -/
def main (arguments : List String) : IO UInt32 := do
  let environment ← EventQuery.Main.readEnvironment
  let report ← (EventQuery.Main.machine environment).run arguments
  IO.print report.output
  IO.eprint report.errors
  pure report.code
