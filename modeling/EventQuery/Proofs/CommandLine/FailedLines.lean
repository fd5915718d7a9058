import EventQuery.CommandLine.Report
import EventQuery.Proofs.Runs.OneLine
import EventQuery.Proofs.Text.Lines
import Mathlib.Data.List.Basic
import Mathlib.Order.Basic

/-!
# What is said of the lines of a file

The check of a file goes through its lines one after the other and counts.  What it says
at the end can be told line by line: of each line that holds a query, whether the query
can be read by itself.  `Report.check_isTally` says so of every file.  The report gives
no line of an error but the number of the line in the file, and nothing is lost by that:
the error of a single line always stands on its first line.
-/

namespace EventQuery.CommandLine

/-- The failure of a line with its number, if it fails. -/
def failureOn? (limits : Limits) (line : List Char × Nat) : Option FailedLine :=
  if holdsNoQuery line.1 then none else failedLine? limits line

/-- One more line is counted if it holds a query, and so is its failure if it fails. -/
theorem Tally.add_eq (limits : Limits) (path : String) (tally : Tally)
    (line : List Char × Nat) :
    tally.add limits path line =
      { total := tally.total + if holdsNoQuery line.1 then 0 else 1
        failed := tally.failed + (failureOn? limits line).toList.length
        errors :=
          tally.errors ++
            String.join ((failureOn? limits line).toList.map (·.text path)) } := by
  unfold add failureOn?
  cases holdsNoQuery line.1 with
  | true => simp
  | false => cases failedLine? limits line <;> simp

end EventQuery.CommandLine
