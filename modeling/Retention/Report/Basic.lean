import Retention.Resource.Verdict

/-!
The report of one sweep: a summary, the records, and the failures that did not stop the run.
-/
namespace Retention

inductive IssueKind
  | listing
  | execution
  | waitTimeout
deriving DecidableEq, Repr

structure Issue where
  kind : IssueKind
  account : Account
  region : String
  resourceKind : Kind
  resourceIds : List String
  message : String
deriving DecidableEq

namespace Issue

/-- Issues are ordered by account, region and kind of resource. -/
def precedes (a b : Issue) : Bool :=
  let byRegion := a.region < b.region ||
    (a.region = b.region && a.resourceKind.rank ≤ b.resourceKind.rank)
  a.account.rank < b.account.rank || (a.account = b.account && byRegion)

end Issue

structure Summary where
  dryRun : Bool
  accounts : List Account
  regions : List String
  kinds : List Kind
  /-- How many records have each operation, under the name of the operation. -/
  operations : Dictionary Nat
  /-- Listings that came back without a resource. -/
  emptyListings : Nat
  issues : List Issue
  notes : List String
deriving DecidableEq

structure Report where
  schemaVersion : String
  toolVersion : String
  name : String
  generatedAt : String
  summary : Summary
  records : List Record
deriving DecidableEq

namespace Report

def recordsOf (report : Report) (kind : Kind) : List Record :=
  report.records.filter fun record => record.kind = kind

/-- The kinds that have records, in their declared order. -/
def kindsPresent (report : Report) : List Kind :=
  Kind.all.filter fun kind => !(report.recordsOf kind).isEmpty

/-- Failed executions and waits that gave up; either one fails an applied run. -/
def executionErrorCount (report : Report) : Nat :=
  (report.summary.issues.filter fun issue => issue.kind != .listing).length

/-- The records an applied run has to carry out. -/
def pending (report : Report) : List Record :=
  report.records.filter (·.verdict.operation.isMutating)

end Report
end Retention
