import Retention.Provider.Normal
import Retention.Report.Basic
import Retention.Rules
import Retention.Sweep.Task
import Retention.Sweep.Unit
import Retention.Time.Timestamp

/-!
A sweep runs its units, each on its own, and puts their results together. In a unit every kind is
listed, judged and, unless the run is dry, carried out. A wait for terminated instances that does not
end well leaves out the rest of its unit; no other failure stops anything.
-/
namespace Retention

structure Request where
  accounts : List Account
  regions : List String
  kinds : List Kind
  policies : PolicyTable
  dryRun : Bool
  workers : Nat
  now : Instant

structure UnitResult where
  records : List Record
  issues : List Issue
  emptyListings : Nat
deriving DecidableEq

namespace UnitResult

def empty : UnitResult := ⟨[], [], 0⟩

def append (a b : UnitResult) : UnitResult :=
  ⟨a.records ++ b.records, a.issues ++ b.issues, a.emptyListings + b.emptyListings⟩

instance : Append UnitResult := ⟨append⟩

end UnitResult

namespace WorkUnit

def issue (unit : WorkUnit) (kind : IssueKind) (resourceKind : Kind) (resourceIds : List String)
    (message : String) : Issue :=
  ⟨kind, unit.account, unit.region, resourceKind, resourceIds, message⟩

def snapshotOf (unit : WorkUnit) (listed : Listed) : Snapshot :=
  .ofListed listed unit.account unit.region

def recordOf (unit : WorkUnit) (policy : Policy) (now : Instant) (listed : Listed) : Record :=
  ⟨unit.snapshotOf listed, Rules.decide (unit.snapshotOf listed) policy now, 0⟩

/-- The record of a listed resource; nothing where its age is undefined. -/
def judge (unit : WorkUnit) (policy : Policy) (now : Instant) (listed : Listed) : Option Record :=
  if Rules.isDefined (unit.snapshotOf listed) policy now then some (unit.recordOf policy now listed)
  else none

/-- A failed execution leaves its message in the record and in an issue. -/
def afterExecution (unit : WorkUnit) (kind : Kind) (record : Record) :
    Except ExecutionError Outcome → Record × List Issue
  | .ok outcome => ({ record with failedCount := outcome.failedCount }, [])
  | .error failure =>
    if failure.isBenign then (record, [])
    else
      let verdict := { record.verdict with error := some failure.message }
      ({ record with verdict },
        [unit.issue .execution kind [record.snapshot.id] failure.message])

def carryOut (unit : WorkUnit) (kind : Kind) (record : Record) : Task (Record × List Issue) := do
  if record.verdict.operation.isMutating then
    let answer ← Task.execute record.verdict.operation record.snapshot
    pure (unit.afterExecution kind record answer)
  else pure (record, [])

def carryOutAll (unit : WorkUnit) (kind : Kind) : List Record → Task (List Record × List Issue)
  | [] => pure ([], [])
  | record :: records => do
    let (record, issues) ← unit.carryOut kind record
    let (records, laterIssues) ← unit.carryOutAll kind records
    pure (record :: records, issues ++ laterIssues)

def waitIssueKind : ExecutionError → IssueKind
  | .waitTimeout .. => .waitTimeout
  | _ => .execution

/-- The instances to wait for: those to terminate whose record has no error, whether anything was changed or not. -/
def awaited (records : List Record) : List String :=
  (records.filter fun record =>
    record.verdict.operation = .terminate && record.verdict.error.isNone).map (·.snapshot.id)

/-- The issue of a wait that did not end well. -/
def afterWait (unit : WorkUnit) (ids : List String) : Except ExecutionError Unit → Option Issue
  | .ok () => none
  | .error failure => some (unit.issue (waitIssueKind failure) .vmInstance ids failure.message)

def settle (unit : WorkUnit) (records : List Record) : Task (Option Issue) := do
  let ids := awaited records
  if ids.isEmpty then pure none
  else
    let answer ← Task.wait unit.account unit.region ids
    pure (unit.afterWait ids answer)

/-- The result of judged records, and whether the unit may go on. -/
def handle (unit : WorkUnit) (request : Request) (kind : Kind) (records : List Record) :
    Task (UnitResult × Bool) :=
  if request.dryRun then pure (⟨records, [], 0⟩, true)
  else do
    let (records, issues) ← unit.carryOutAll kind records
    if kind = .vmInstance then
      let unsettled ← unit.settle records
      pure (⟨records, issues ++ unsettled.toList, 0⟩, unsettled.isNone)
    else pure (⟨records, issues, 0⟩, true)

/-- The result of one kind, and whether the unit may go on. -/
def sweepKind (unit : WorkUnit) (request : Request) (kind : Kind) : Task (UnitResult × Bool) :=
  match request.policies kind with
  | none => pure (.empty, true)
  | some policy => do
    match ← Task.list unit.account unit.region kind with
    | .error failure => pure (⟨[], [unit.issue .listing kind [] failure.message], 0⟩, true)
    | .ok listed =>
      match listed.mapM (unit.judge policy request.now) with
      | none => .abort
      | some [] => pure (⟨[], [], 1⟩, true)
      | some records => unit.handle request kind records

def sweepKinds (unit : WorkUnit) (request : Request) : List Kind → Task UnitResult
  | [] => pure .empty
  | kind :: kinds => do
    let (result, goesOn) ← unit.sweepKind request kind
    if goesOn then
      let rest ← unit.sweepKinds request kinds
      pure (result ++ rest)
    else pure result

def sweep (unit : WorkUnit) (request : Request) : Task UnitResult :=
  unit.sweepKinds request unit.kinds

end WorkUnit

namespace Report

def monthNames : List String :=
  ["Jan", "Feb", "Mar", "Apr", "May", "Jun", "Jul", "Aug", "Sep", "Oct", "Nov", "Dec"]

def yearText (year : Int) : String := (if year < 0 then "-" else "") ++ Text.padded 4 year.natAbs

def stamp (now : Instant) : String :=
  yearText now.date.year ++ "-" ++ (monthNames[now.date.month - 1]?).getD "" ++ "-" ++
    Text.padded 2 now.date.day ++ "_" ++ Text.padded 2 now.clock.hour ++ "-" ++
    Text.padded 2 now.clock.minute ++ "-" ++ Text.padded 2 now.clock.second

def nameFor (dryRun : Bool) (accounts : List Account) (now : Instant) : String :=
  let account := match accounts with
    | [account] => account.name
    | _ => "Both"
  (if dryRun then "DryRun_" else "") ++ "ResourcesCleaner_" ++ account ++ "_" ++ stamp now

def currentSchema : String := "1.0"

def currentTool : String := "0.1.0"

def notesFor (dryRun : Bool) (issues : List Issue) : List String :=
  (if dryRun then ["Dry run: no resources were modified."] else []) ++
  (if issues.isEmpty then []
    else [toString issues.length ++ " issue(s) were reported during the run."])

def timeText (instant : Instant) : String := (Timestamp.internetText? instant).getD "unknown"

/-- The report of a request from the results of its units, in the order in which they arrived. -/
def assemble (request : Request) (results : List UnitResult) : Report :=
  let all := results.foldl (· ++ ·) UnitResult.empty
  let records := all.records.mergeSort Record.precedes
  let issues := all.issues.mergeSort Issue.precedes
  { schemaVersion := currentSchema
    toolVersion := currentTool
    name := nameFor request.dryRun request.accounts request.now
    generatedAt := timeText request.now
    summary := {
      dryRun := request.dryRun
      accounts := request.accounts
      regions := request.regions
      kinds := request.kinds
      operations := .tally (records.map (·.verdict.operation.name))
      emptyListings := all.emptyListings
      issues
      notes := notesFor request.dryRun issues }
    records }

end Report

/-- Answers for a run in which nothing is carried out: every operation counts as a trial. -/
def Lister.answer (lister : Lister) : (call : Call) → Id call.Answer
  | .list account region kind => lister account region kind
  | .execute .. => .error ExecutionError.dryRunWouldSucceed
  | .wait .. => .error ExecutionError.dryRunWouldSucceed

/-- Why a sweep gives no report. -/
inductive SweepError
  | policyMissing (kind : Kind)
  | executorMissing
  /-- The age of some resource is undefined. -/
  | undefinedAge
deriving DecidableEq

/-- What is said of a run that has nothing to carry operations out with. -/
def SweepError.executorMissingMessage : String :=
  "an executor is required unless running in dry-run mode"

/-- What a sweep tells its observer: each record of a unit, then the unit. -/
inductive Notice
  | record (record : Record)
  | unitFinished (unit : WorkUnit)
deriving DecidableEq

namespace Notice

def ofResult (unit : WorkUnit) (result : UnitResult) : List Notice :=
  result.records.map .record ++ [.unitFinished unit]

end Notice

namespace Request

def units (request : Request) : List WorkUnit :=
  WorkUnit.plan request.accounts request.regions request.kinds

/-- A sweep needs a policy for every kind, and an executor unless it is dry. -/
def check (request : Request) (hasExecutor : Bool) : Except SweepError Unit :=
  match request.kinds.find? fun kind => (request.policies kind).isNone with
  | some kind => .error (.policyMissing kind)
  | none => if !request.dryRun && !hasExecutor then .error .executorMissing else .ok ()

/-- Runs the units one after the other. -/
def runUnits {m : Type → Type} [Monad m] (request : Request)
    (answer : (call : Call) → m call.Answer) :
    List WorkUnit → m (Except SweepError (List (WorkUnit × UnitResult)))
  | [] => pure (.ok [])
  | unit :: units => do
    match ← (unit.sweep request).run answer with
    | none => pure (.error .undefinedAge)
    | some result =>
      let rest ← request.runUnits answer units
      pure (rest.map ((unit, result) :: ·))

/-- A run in order: the report, and the results of the units. -/
def run {m : Type → Type} [Monad m] (request : Request) (hasExecutor : Bool)
    (answer : (call : Call) → m call.Answer) :
    m (Except SweepError (Report × List (WorkUnit × UnitResult))) :=
  match request.check hasExecutor with
  | .error failure => pure (.error failure)
  | .ok () => do
    let results ← request.runUnits answer request.units
    pure (results.map fun results => (.assemble request (results.map (·.2)), results))

end Request
end Retention
