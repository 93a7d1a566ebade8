import Retention.Report.Sheet
import Retention.Report.Table
import Retention.Resource.Policy

/-!
What a terminal shows of a report, of the changes that a report asks for, and of policies. Long cells
keep both of their ends, and the operation of a record may be coloured.
-/
namespace Retention
namespace Terminal

/-- The longest cell that is shown whole. -/
def cellLimit : Nat := 48

/-- A text over the limit loses its middle to three dots. -/
def truncateMiddle (limit : Nat) (text : List Char) : List Char :=
  if text.length ≤ limit then text
  else
    let kept := limit - 3
    let left := kept / 2
    let right := kept - left
    text.take left ++ ['.', '.', '.'] ++ text.drop (text.length - right)

def shortened (cell : String) : String := .ofList (truncateMiddle cellLimit cell.toList)

def colourCode : Operation → String
  | .keep | .ignore | .noOp => "90"
  | .shutdown => "33"
  | .terminate | .deregister | .delete => "31"
  | .notApplicable => "35"

def styled (colour : Bool) (operation : Operation) (label : String) : String :=
  if colour then "\x1b[" ++ colourCode operation ++ "m" ++ label ++ "\x1b[0m" else label

/-- The cells of a record, shortened, with the operation styled. -/
def tableRow (colour : Bool) (record : Record) : List String :=
  match (Sheet.cells record).map shortened with
  | [] => []
  | label :: cells => styled colour record.verdict.operation label :: cells

def sheet (colour : Bool) (report : Report) (kind : Kind) : List String :=
  let records := report.recordsOf kind
  ["", kind.sheetName ++ " (" ++ toString records.length ++ "):"] ++
    Table.lines (Sheet.headings kind) (records.map (tableRow colour))

def issueLabel : IssueKind → String
  | .listing => "listing"
  | .execution => "execution"
  | .waitTimeout => "wait-timeout"

def issueLine (issue : Issue) : String :=
  "- [" ++ issueLabel issue.kind ++ "] " ++ issue.account.name ++ " " ++ issue.region ++ " " ++
    issue.resourceKind.name ++ ": " ++ issue.message

def issues (report : Report) : List String :=
  if report.summary.issues.isEmpty then []
  else ["", "issues (" ++ toString report.summary.issues.length ++ "):"] ++
    report.summary.issues.map issueLine

def counts (report : Report) : String :=
  if report.summary.operations.isEmpty then "-"
  else "  ".intercalate <| report.summary.operations.entries.map fun entry =>
    entry.1 ++ "=" ++ toString entry.2

def heading (report : Report) : List String :=
  let mode := if report.summary.dryRun then "dry run" else "applied"
  [report.name ++ " (" ++ mode ++ ")",
   "summary: resources=" ++ toString report.records.length ++ "  " ++ counts report] ++
  (if report.summary.emptyListings = 0 then []
    else ["- empty listings: " ++ toString report.summary.emptyListings]) ++
  report.summary.notes.map fun note => "- " ++ note

def reportText (colour : Bool) (report : Report) : String :=
  Text.unlines <|
    heading report ++ report.kindsPresent.flatMap (sheet colour report) ++ issues report

def previewLine (colour : Bool) (record : Record) : String :=
  "  " ++ styled colour record.verdict.operation record.label ++ "  " ++ record.kind.name ++ "  " ++
    record.snapshot.account.name ++ " " ++ record.snapshot.region ++ "  " ++ record.snapshot.id

/-- How many records of the report ask for a change, and a line for each of them. -/
def previewText (colour : Bool) (report : Report) : String :=
  Text.unlines <|
    ("operations to apply: " ++ toString report.pending.length) ::
      report.pending.map (previewLine colour)

def policiesText (policies : PolicyTable) : String :=
  Text.unlines <| Table.lines ["Kind", "Mode", "Policy"] <| policies.entries.map fun entry =>
    [entry.1.sheetName, entry.2.mode.name, entry.2.description]

end Terminal
end Retention
