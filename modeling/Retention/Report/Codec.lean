import Retention.Report.Basic
import Retention.Resource.Codec

/-!
Reports as exchanged data.
-/
namespace Retention

namespace IssueKind

def code : IssueKind → String
  | .listing => "listing"
  | .execution => "execution"
  | .waitTimeout => "wait_timeout"

def codes : List (String × IssueKind) :=
  [("listing", .listing), ("execution", .execution), ("wait_timeout", .waitTimeout)]

end IssueKind

namespace Issue

def ofJson? (value : Json) : Option Issue := do
  let [kind, account, region, resourceKind, resourceIds, message] ← value.slots
    ["kind", "account", "region", "resource_kind", "resource_ids", "message"] | none
  some {
    kind := ← kind.required (Json.choice? IssueKind.codes)
    account := ← account.required Account.ofJson?
    region := ← region.required Json.text?
    resourceKind := ← resourceKind.required Kind.ofJson?
    resourceIds := ← resourceIds.defaulted [] (Json.list? Json.text?)
    message := ← message.required Json.text? }

/-- An issue that concerns no resource has no list of ids. -/
def toJson (issue : Issue) : Json := .object <|
  [("kind", .str issue.kind.code), ("account", issue.account.toJson), ("region", .str issue.region),
   ("resource_kind", issue.resourceKind.toJson)] ++
  (if issue.resourceIds.isEmpty then [] else [("resource_ids", .strings issue.resourceIds)]) ++
  [("message", .str issue.message)]

end Issue

namespace Summary

def ofJson? (value : Json) : Option Summary := do
  let [dryRun, accounts, regions, kinds, operations, emptyListings, issues, notes] ← value.slots
    ["dry_run", "accounts", "regions", "kinds", "operations", "empty_listings", "issues", "notes"]
    | none
  some {
    dryRun := ← dryRun.required Json.bool?
    accounts := ← accounts.required (Json.list? Account.ofJson?)
    regions := ← regions.required (Json.list? Json.text?)
    kinds := ← kinds.required (Json.list? Kind.ofJson?)
    operations := ← operations.required (Json.dictionary? (Json.nat? UInt64.size))
    emptyListings := ← emptyListings.required (Json.nat? UInt64.size)
    issues := ← issues.required (Json.list? Issue.ofJson?)
    notes := ← notes.required (Json.list? Json.text?) }

def toJson (summary : Summary) : Json := .object
  [("dry_run", .bool summary.dryRun), ("accounts", .array (summary.accounts.map Account.toJson)),
   ("regions", .strings summary.regions), ("kinds", .array (summary.kinds.map Kind.toJson)),
   ("operations", .object (summary.operations.entries.map fun entry => (entry.1, .nat entry.2))),
   ("empty_listings", .nat summary.emptyListings),
   ("issues", .array (summary.issues.map Issue.toJson)), ("notes", .strings summary.notes)]

end Summary

namespace Report

def ofJson? (value : Json) : Option Report := do
  let [schemaVersion, toolVersion, name, generatedAt, summary, records] ← value.slots
    ["schema_version", "tool_version", "name", "generated_at", "summary", "records"] | none
  some {
    schemaVersion := ← schemaVersion.required Json.text?
    toolVersion := ← toolVersion.required Json.text?
    name := ← name.required Json.text?
    generatedAt := ← generatedAt.required Json.text?
    summary := ← summary.required Summary.ofJson?
    records := ← records.required (Json.list? Record.ofJson?) }

/-- Nothing where some creation time has no written form. -/
def toJson? (report : Report) : Option Json := do
  let records ← report.records.mapM Record.toJson?
  some <| .object
    [("schema_version", .str report.schemaVersion), ("tool_version", .str report.toolVersion),
     ("name", .str report.name), ("generated_at", .str report.generatedAt),
     ("summary", report.summary.toJson), ("records", .array records)]

end Report
end Retention
