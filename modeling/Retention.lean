import Retention.CommandLine.Program
import Retention.Failure
import Retention.Hook.Basic
import Retention.Host.FileTree
import Retention.Json.Parse
import Retention.Json.Print
import Retention.Main
import Retention.Proofs.Sweep.Dialogue
import Retention.Provider.Normal
import Retention.Report.Markdown
import Retention.Report.RunLog
import Retention.Report.Terminal
import Retention.Sweep.Pool
import Retention.Proofs.Sweep.UnitDialogue
import Retention.Proofs.Sweep.Reached
import Retention.Proofs.Sweep.Executions
import Retention.Proofs.Tags
import Retention.Proofs.Verdict
import Retention.Proofs.Protection
import Retention.Proofs.Sweep.Waits
import Retention.Proofs.Sweep.Assembly
import Retention.Proofs.Preview
import Retention.Proofs.Sweep.Plan
import Retention.Proofs.Sweep.Progress
import Retention.Proofs.Sweep.Schedule
import Retention.Proofs.Sweep.Transcript
import Retention.Proofs.Sweep.Audit
import Retention.Proofs.Sweep.Barrier
import Retention.Proofs.Sweep.Forecast
import Retention.Proofs.Sweep.Coverage
import Retention.Proofs.Sweep.Isolation
import Retention.Proofs.Sweep.Uniqueness
import Retention.Proofs.Sweep.Failures
import Retention.Proofs.Application
import Retention.Proofs.Invocations
import Retention.Proofs.Selection
import Retention.Proofs.Calendar
import Retention.Proofs.Ages
import Retention.Proofs.Dictionary
import Retention.Proofs.Table
import Retention.Proofs.Expiry
import Retention.Proofs.Reasons
import Retention.Proofs.Relevance
import Retention.Proofs.Sheet
import Retention.Proofs.TagText
import Retention.Proofs.Untagged
import Retention.Proofs.Sweep.Cells
import Retention.Proofs.Listing
import Retention.Proofs.ByteOrder
import Retention.Proofs.Policies
import Retention.Proofs.Text
import Retention.Proofs.Timestamps
import Retention.Proofs.Json.Scan
import Retention.Proofs.Json.Written
import Retention.Proofs.Json.Record
import Retention.Proofs.Reports
import Retention.Proofs.Settings
import Retention.Proofs.Toml.Quoted
import Retention.Proofs.Toml.Value
import Retention.Proofs.Toml.Lines
import Retention.Proofs.Toml.Tree
import Retention.Proofs.Toml.WellFormed
import Retention.Proofs.Shown
import Retention.Proofs.Regions
import Retention.Proofs.Targets
import Retention.Proofs.Markdown
import Retention.Proofs.Except
import Retention.Proofs.Places
import Retention.Proofs.Readings
import Retention.Proofs.Typed
import Retention.Proofs.Precedence
import Retention.Proofs.Colour
import Retention.Proofs.Columns
import Retention.Proofs.Controls
import Retention.Proofs.Uncoloured
import Retention.Proofs.Causes
import Retention.Proofs.Heights
import Retention.Proofs.Sweep.Heights
import Retention.Proofs.Words
import Retention.Proofs.FailedCount
import Retention.Proofs.Spellings
import Retention.Proofs.Truncation
