import Retention.Report.Codec
import Retention.Sweep.Run

/-!
The audit log of an applied run: what was carried out, and what failed.
-/
namespace Retention
namespace RunLog

def executionJson (record : Record) : Json := .object <|
  [("account", record.snapshot.account.toJson), ("region", .str record.snapshot.region),
   ("kind", record.kind.toJson), ("id", .str record.snapshot.id), ("operation", .str record.label)] ++
  (if record.failedCount = 0 then [] else [("failed_count", .word record.failedCount)]) ++
  record.verdict.error.toList.map fun error => ("error", .str error)

def status (report : Report) : String :=
  if report.summary.issues.isEmpty then "ok" else "partial_error"

def document (startedAt finishedAt : Instant) (report : Report) : Json := .object
  [("schema_version", .str Report.currentSchema), ("tool_version", .str Report.currentTool),
   ("command", .str "apply"), ("report_name", .str report.name),
   ("started_at", .str (Report.timeText startedAt)),
   ("finished_at", .str (Report.timeText finishedAt)), ("status", .str (status report)),
   ("executions", .array (report.pending.map executionJson)),
   ("issues", .array (report.summary.issues.map Issue.toJson))]

end RunLog
end Retention
