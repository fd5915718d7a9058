/-!
# A settings file to start from

The file gives every setting its usual value and says what each of them does.
-/

namespace EventQuery.Settings

/-- The lines of the file. -/
def templateLines : List String := [
  "# nrql Configuration",
  "#",
  "# Environment variables override these settings:",
  "# - NRQL_MAX_DEPTH",
  "# - NRQL_MAX_QUERY_LENGTH",
  "# - NRQL_OUTPUT_PRETTY",
  "# - NRQL_LOG_LEVEL",
  "# - NRQL_LOG_FORMAT",
  "",
  "[parser]",
  "# Deepest allowed nesting of parentheses, calls and prefix operators",
  "max_depth = 64",
  "",
  "# Longest accepted query in bytes (unlimited when unset)",
  "# max_query_length = 4096",
  "",
  "[output]",
  "# Pretty-print JSON output",
  "pretty = true",
  "",
  "[logging]",
  "# Log level: trace, debug, info, warn, error",
  "level = \"warn\"",
  "",
  "# Log format: pretty (for development) or json (for production)",
  "format = \"pretty\""]

/-- A file that gives the usual settings. -/
def template : String :=
  String.join (templateLines.map (· ++ "\n"))

end EventQuery.Settings
