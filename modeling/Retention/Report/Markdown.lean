import Retention.Report.Sheet

/-!
A report as markdown: a list of facts, a table for each kind that has records, and the issues. Every
line ends with a line feed.
-/
namespace Retention
namespace Markdown

/-- A pipe gets a backslash, and a line feed becomes a space. -/
def escapedChar : Char → List Char
  | '|' => ['\\', '|']
  | '\n' => [' ']
  | c => [c]

def escaped (cell : String) : String := .ofList (cell.toList.flatMap escapedChar)

def tableRow (cells : List String) : String := "| " ++ " | ".intercalate cells ++ " |"

def rule (columns : Nat) : String := "|" ++ .join (List.replicate columns " --- |")

def facts (report : Report) : List String :=
  ["# " ++ report.name, "", "- tool version: " ++ report.toolVersion,
   "- generated at: " ++ report.generatedAt,
   "- dry run: " ++ if report.summary.dryRun then "true" else "false"] ++
  (report.summary.operations.entries.map fun entry =>
    "- " ++ entry.1 ++ ": " ++ toString entry.2) ++
  report.summary.notes.map fun note => "- note: " ++ note

def sheet (report : Report) (kind : Kind) : List String :=
  let headings := Sheet.headings kind
  ["", "## " ++ kind.sheetName, "", tableRow headings, rule headings.length] ++
  (report.recordsOf kind).map fun record => tableRow ((Sheet.cells record).map escaped)

def issueLine (issue : Issue) : String :=
  "- " ++ issue.account.name ++ " " ++ issue.region ++ " " ++ issue.resourceKind.name ++ ": " ++
    issue.message

def issues (report : Report) : List String :=
  if report.summary.issues.isEmpty then []
  else ["", "## Issues", ""] ++ report.summary.issues.map issueLine

def document (report : Report) : String :=
  Text.unlines (facts report ++ report.kindsPresent.flatMap (sheet report) ++ issues report)

end Markdown
end Retention
