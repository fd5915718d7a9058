import EventQuery.CommandLine.Folder
import EventQuery.Json.Reader
import EventQuery.Main
import EventQuery.Proofs.Canonical.Fidelity
import EventQuery.Proofs.Canonical.Names
import EventQuery.Proofs.Canonical.NumberPlace
import EventQuery.Proofs.Canonical.RoundTrip
import EventQuery.Proofs.CommandLine.FailedLines
import EventQuery.Proofs.CommandLine.SkippedLines
import EventQuery.Proofs.Grammar.ClauseOrder
import EventQuery.Proofs.Grammar.Decimals
import EventQuery.Proofs.Grammar.Filter
import EventQuery.Proofs.Grammar.Layers
import EventQuery.Proofs.Json.Decoding
import EventQuery.Proofs.Json.Number
import EventQuery.Proofs.Json.Query
import EventQuery.Proofs.Json.String
import EventQuery.Proofs.Json.Text
import EventQuery.Proofs.Parentheses.Removal
import EventQuery.Proofs.Runs.Agreement
import EventQuery.Proofs.Runs.Expression
import EventQuery.Proofs.Runs.Limits
import EventQuery.Proofs.Runs.OneLine
import EventQuery.Proofs.Runs.Outcome
import EventQuery.Proofs.Runs.Query
import EventQuery.Proofs.Settings.Precedence
import EventQuery.Proofs.Settings.Usable
import EventQuery.Proofs.Steps.Depth
import EventQuery.Proofs.Time.Buckets
import EventQuery.Proofs.Time.Duration
import EventQuery.Proofs.Time.MonthBuckets
import EventQuery.Proofs.Time.Timestamp
import EventQuery.Proofs.Token.Ending
import EventQuery.Proofs.Token.Fault
import EventQuery.Proofs.Token.Layout
import EventQuery.Proofs.Token.Limit
import EventQuery.Proofs.Token.Respacing
import EventQuery.Proofs.Token.Strings
import EventQuery.Query.Decode
import EventQuery.Query.Window
