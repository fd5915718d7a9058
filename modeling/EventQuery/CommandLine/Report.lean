import EventQuery.Canonical.Query
import EventQuery.Json.Writer
import EventQuery.Query.Encode
import EventQuery.Settings
import EventQuery.Text.Blank
import EventQuery.Text.Lines

/-!
# Reports of commands

What a command leaves behind: its two outputs and its exit code.  The code is
zero for success, one where the work failed and two where the arguments make
no sense.
-/

namespace EventQuery.CommandLine

/-- The outputs of a run and its exit code. -/
structure Report where
  code : UInt32 := 0
  output : String := ""
  errors : String := ""
deriving DecidableEq, Repr

namespace Report

/-- A success that prints a text and ends the line. -/
def printed (text : String) : Report where
  output := text ++ "\n"

/-- A failure that keeps a command from being done. -/
def failed (message : String) : Report where
  code := 1
  errors := "Error: " ++ message ++ "\n"

/-- The error of a query, in one line. -/
def syntaxError (error : QueryError) : Report where
  code := 1
  errors :=
    "Syntax error at line " ++ Decimal.naturalText error.position.line ++
      " column " ++ Decimal.naturalText error.position.column ++
      " : " ++ error.message ++ "\n"

/-- The tree of a query as JSON, over several lines or on a single one. -/
def tree (settings : Settings) (compact : Bool) (query : Query) : Report :=
  if settings.pretty && !compact then
    printed query.toJson.pretty
  else
    printed query.toJson.compact

/-- What is said of a query if it can be read, and its error otherwise. -/
def ofQuery (settings : Settings) (source : String) (render : Query → Report) : Report :=
  match Query.parseWithin settings.limits source with
  | .ok query => render query
  | .error error => syntaxError error

end Report

/-- A line of a file of queries that has an error, with its number. -/
structure FailedLine where
  number : Nat
  error : QueryError

/-- The wording of the error of a line in a file of queries. -/
def FailedLine.text (path : String) (failed : FailedLine) : String :=
  path ++ ":" ++ Decimal.naturalText failed.number ++
    ": column " ++ Decimal.naturalText failed.error.position.column ++
    ": " ++ failed.error.message ++ "\n"

/-- Whether a line holds no query: it is blank, or starts with a mark of a comment. -/
def holdsNoQuery (line : List Char) : Bool :=
  match Text.dropBlanks line with
  | [] => true
  | '#' :: _ => true
  | '-' :: '-' :: _ => true
  | '/' :: '/' :: _ => true
  | _ => false

/-- A line whose query cannot be read. -/
def failedLine? (limits : Limits) (line : List Char × Nat) : Option FailedLine :=
  match Query.parseWithin limits (String.ofList line.1) with
  | .ok _ => none
  | .error error => some ⟨line.2, error⟩

/-- How far the check of a file has come: what was counted, and what was said of it. -/
structure Tally where
  /-- The lines that hold queries. -/
  total : Nat := 0
  /-- The lines among them that have errors. -/
  failed : Nat := 0
  errors : String := ""

namespace Tally

/-- One more line, with its number. -/
def add
    (limits : Limits)
    (path : String)
    (tally : Tally)
    (line : List Char × Nat) :
    Tally :=
  if holdsNoQuery line.1 then
    tally
  else
    match failedLine? limits line with
    | none => { tally with total := tally.total + 1 }
    | some failed =>
        { total := tally.total + 1
          failed := tally.failed + 1
          errors := tally.errors ++ failed.text path }

/-- All lines of a text, numbered from one on. -/
def ofText (limits : Limits) (path text : String) : Tally :=
  ((Text.lines text.toList).zipIdx 1).foldl (add limits path) {}

end Tally

/-- The report on a file of queries, one on each line. -/
def Report.check (limits : Limits) (path text : String) : Report :=
  let tally := Tally.ofText limits path text
  { code := if tally.failed = 0 then 0 else 1
    output :=
      Decimal.naturalText tally.total ++ " queries checked, " ++
        Decimal.naturalText tally.failed ++ " failed\n"
    errors := tally.errors }

end EventQuery.CommandLine
