import EventQuery.CommandLine.Arguments
import EventQuery.CommandLine.Report
import EventQuery.Settings.Load
import EventQuery.Settings.Template

/-!
# Runs of the program

A run reads its arguments and its settings, and then does one command.  What it
needs from the machine comes from a host, so that a run on files in memory goes
the same way as one on a disk.
-/

namespace EventQuery.CommandLine

/-- What a run asks of the machine. -/
structure Host (m : Type → Type) where
  environment : Environment
  /-- The settings file of the user. -/
  userSettings : m FileContent
  /-- All of the standard input. -/
  readInput : m FileContent
  readFile (path : String) : m FileContent
  writeFile (path text : String) : m (Except FileFault Unit)

/-- The line that tells the version of the program. -/
def versionText : String := "nrql 0.1.0"

/-- How the program is called. -/
def usageText : String :=
  String.intercalate "\n" [
    "Usage: nrql [OPTIONS] <COMMAND>",
    "",
    "Commands:",
    "  parse [QUERY] [--compact]    Print the tree of a query as JSON",
    "  format [QUERY]               Print a query in canonical form",
    "  check <PATH>                 Check every query in a file, one per line",
    "  config [-o, --output PATH]   Give a settings file to start from",
    "",
    "Options:",
    "  -c, --config <CONFIG>  Settings file",
    "  -h, --help             Print help",
    "  -V, --version          Print version"]

/-- The report where no command is done. -/
def Halt.report : Halt → Report
  | misuse => { code := 2, errors := usageText ++ "\n" }
  | help => .printed usageText
  | version => .printed versionText

variable {m : Type → Type} [Monad m] (host : Host m)

namespace Host

/-- The usual settings files, the most important one first. -/
def candidates : m (List FileContent) := do
  let user ← host.userSettings
  let system ← host.readFile "/etc/nrql/config.toml"
  let nearby ← host.readFile "./nrql.toml"
  pure [user, system, nearby]

/-- The settings from the file of a path, or from the usual files. -/
def settings (path : Option String) : m (Except String Settings) := do
  match path with
  | some path => do
      let content ← host.readFile path
      pure ((Settings.load host.environment content).mapError (·.display path))
  | none => do
      let candidates ← host.candidates
      pure (.ok (Settings.search host.environment candidates))

/-- The report on a query among the arguments, or else on the standard input. -/
def reportQuery (query : Option String) (report : String → Report) : m Report := do
  match query with
  | some source => pure (report source)
  | none => do
      let input ← host.readInput
      match input.text with
      | .ok source => pure (report source)
      | .error fault =>
          pure (.failed ("failed to read query from stdin: " ++ fault.message))

/-- The report on a file of queries. -/
def reportCheck (limits : Limits) (path : String) : m Report := do
  let content ← host.readFile path
  match content.text with
  | .ok text => pure (.check limits path text)
  | .error fault => pure (.failed ("failed to read " ++ path ++ ": " ++ fault.message))

/-- The settings file to start from, printed or written to a file. -/
def giveTemplate (output : Option String) : m Report := do
  match output with
  | none => pure { output := Settings.template }
  | some path => do
      let written ← host.writeFile path Settings.template
      match written with
      | .ok () => pure (.printed ("Config written to " ++ path))
      | .error fault => pure (.failed ("failed to write " ++ path ++ ": " ++ fault.message))

/-- A command under some settings. -/
def perform (settings : Settings) (command : Command) : m Report :=
  match command with
  | .parse query compact =>
      host.reportQuery query fun source =>
        .ofQuery settings source (.tree settings compact)
  | .format query =>
      host.reportQuery query fun source =>
        .ofQuery settings source fun query => .printed query.text
  | .check path => host.reportCheck settings.limits path
  | .config output => host.giveTemplate output

/-- A run with some arguments. -/
def run (arguments : List String) : m Report := do
  match Invocation.ofArguments arguments with
  | .error halt => pure halt.report
  | .ok invocation => do
      let settings ← host.settings invocation.configPath
      match settings with
      | .error message => pure (.failed message)
      | .ok settings => host.perform settings invocation.command

end Host

end EventQuery.CommandLine
