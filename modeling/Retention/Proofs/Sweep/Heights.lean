import Retention.Proofs.Capture
import Retention.Proofs.Dictionary
import Retention.Proofs.Heights
import Retention.Proofs.Sweep.Audit
import Retention.Proofs.Sweep.Coverage
import Retention.Proofs.Table

/-!
How many lines the report of a run takes. The error of a record comes from the lookup of its tags or from an
answer of the executor, and so does the message of an issue, unless it is about a listing. Where the capture and
the request have no line break, a record or an issue takes more than one line because of what the executor said.
-/
namespace Retention

open Text (Lacks)

/-! Listed records. -/

section Listings

variable {c : Char} {unit : WorkUnit} {one : Listed}

def Provider.tagTexts (tags : Option (List Provider.Tag)) : List String :=
  tags.toList.flatMap fun tags => tags.flatMap fun tag => [tag.key, tag.value]

def Listed.tagTexts : Listed → List String
  | .vmInstance r => Provider.tagTexts r.tags
  | .volume r => Provider.tagTexts r.tags
  | .image r => Provider.tagTexts r.tags
  | .snapshot r => Provider.tagTexts r.tags
  | .securityGroup r _ => Provider.tagTexts r.tags
  | .dbInstance r => Provider.tagTexts r.tags
  | .dbSnapshot r => Provider.tagTexts r.tags
  | .bucket r => Provider.tagTexts r.tagSet
  | .resourceGroup r => Tags.texts r.tags

def Listed.detailTexts : Listed → List String
  | .vmInstance r =>
    [r.instanceType, r.availabilityZone, r.state] ++
      (r.deviceMappings.filterMap (·.device)).flatMap fun device => [device.volumeId, device.status]
  | .volume r => [r.availabilityZone, r.state, r.volumeType]
  | .image r => [r.name, r.imageType] ++ r.creationDate.toList
  | .snapshot r => [r.volumeId]
  | .securityGroup r attachedInstances => r.groupName :: r.vpcId.toList ++ attachedInstances
  | .dbInstance r => [r.status, r.instanceClass]
  | .dbSnapshot r => [r.dbInstanceIdentifier, r.snapshotType]
  | .bucket r => r.tagError.toList.flatMap fun failure => [failure.code, failure.message]
  | .resourceGroup r => [r.location]

/-- The texts of a listed record, as far as a report shows them. -/
def Listed.texts (one : Listed) : List String := one.id :: one.tagTexts ++ one.detailTexts

theorem lacks_tags (free : ∀ text ∈ one.tagTexts, Lacks c text) :
    ∀ text ∈ Tags.texts (unit.snapshotOf one).tags, Lacks c text := by
  have listed (tags : Option (List Provider.Tag)) (free : ∀ text ∈ Provider.tagTexts tags, Lacks c text) :
      ∀ text ∈ Tags.texts (tags.map .ofListed), Lacks c text := by
    intro text member
    obtain ⟨_, some, either⟩ := List.mem_flatMap.mp member
    obtain ⟨own, present, rfl⟩ := Option.map_eq_some_iff.mp (Option.mem_toList.mp some)
    obtain ⟨entry, inside, either⟩ := List.mem_flatMap.mp either
    obtain ⟨tag, here, rfl⟩ := List.mem_map.mp (Dictionary.mem_of_mem_ofList inside)
    exact free text (List.mem_flatMap.mpr ⟨own, by simp [present], List.mem_flatMap.mpr ⟨tag, here, either⟩⟩)
  cases one with
  | bucket r =>
    have untagged : Tags.texts (some ∅) = [] := rfl
    change ∀ text ∈ Tags.texts r.tags.2, Lacks c text
    unfold Provider.Bucket.tags
    split
    · split
      · simp [untagged]
      · simp [Tags.texts]
    · rename_i own _ present
      exact listed (some own) (present ▸ free)
    · simp [untagged]
  | resourceGroup r => exact free
  | _ => exact listed _ free

/-- What went wrong when tags were read is told by its code and its message. -/
theorem lacks_failure (control : c.toNat < 0x20) {failure : Provider.TagFailure} (code : Lacks c failure.code)
    (message : Lacks c failure.message) : Lacks c failure.text := by
  rw [Provider.TagFailure.text]
  split
  · exact code
  · have mark : Lacks c ": " := Text.lacks_of_isPrintable control (by decide)
    simp [code, message, mark]

theorem lacks_details (control : c.toNat < 0x20) (free : ∀ text ∈ one.detailTexts, Lacks c text) :
    ∀ text ∈ (unit.snapshotOf one).details.texts, Lacks c text := by
  cases one with
  | vmInstance r =>
    simp only [Listed.detailTexts, List.forall_mem_append, List.forall_mem_flatMap] at free
    simp only [WorkUnit.snapshotOf, Snapshot.ofListed, Details.texts, List.forall_mem_append, List.forall_mem_flatMap,
      List.forall_mem_map]
    exact free
  | image r =>
    simp only [Listed.detailTexts, List.forall_mem_append, List.forall_mem_cons] at free
    obtain ⟨⟨name, type, -⟩, date⟩ := free
    have date : Lacks c (r.creationDate.getD "") := by
      cases same : r.creationDate with
      | none => exact Text.lacks_of_isPrintable control (by decide)
      | some text => exact date text (by simp [same])
    simp [WorkUnit.snapshotOf, Snapshot.ofListed, Details.texts, name, type, date]
  | bucket r =>
    change ∀ text ∈ Details.texts (.bucket r.keyCount r.tags.1), Lacks c text
    unfold Provider.Bucket.tags
    split
    · rename_i failure _ failed
      simp only [Listed.detailTexts, failed, Option.toList_some, List.flatMap_singleton, List.forall_mem_cons] at free
      split
      · simp [Details.texts]
      · simpa [Details.texts] using lacks_failure control free.1 free.2.1
    · simp [Details.texts]
    · simp [Details.texts]
  | _ => exact free

/-- A control character in a snapshot was in the listed record, or in the region. -/
theorem lacks_snapshotOf (control : c.toNat < 0x20) (region : Lacks c unit.region)
    (free : ∀ text ∈ one.texts, Lacks c text) : ∀ text ∈ (unit.snapshotOf one).texts, Lacks c text := by
  simp only [Listed.texts, List.cons_append, List.forall_mem_append, List.forall_mem_cons] at free
  obtain ⟨id, tags, details⟩ := free
  simp only [Snapshot.texts, List.forall_mem_append, List.forall_mem_cons, WorkUnit.id_snapshotOf,
    WorkUnit.region_snapshotOf]
  exact ⟨⟨⟨id, region, by simp⟩, lacks_tags tags⟩, lacks_details control details⟩

end Listings

/-! Errors. -/

/-- Every error of the record comes from the lookup of its tags, or from an event that failed. -/
def Record.Explained (events : List Event) (record : Record) : Prop :=
  ∀ error ∈ record.verdict.error, Rules.lookupError record.snapshot = some error ∨
    ∃ event ∈ events, ∃ issue ∈ event.issue?, issue.message = error

theorem Record.Explained.mono {record : Record} {events more : List Event} (explained : record.Explained events)
    (longer : events ⊆ more) : record.Explained more := by
  intro error shown
  refine (explained error shown).imp_right fun raised => ?_
  obtain ⟨event, asked, raised⟩ := raised
  exact ⟨event, longer asked, raised⟩

namespace WorkUnit

variable {unit : WorkUnit} {request : Request} {kind : Kind} {kinds : List Kind} {events : List Event}
  {result : UnitResult} {records done : List Record} {issues : List Issue}

theorem explained_recordOf (policy : Policy) (now : Instant) (one : Listed) :
    (unit.recordOf policy now one).Explained events := by
  intro error shown
  rw [recordOf, Rules.decide_error] at shown
  exact .inl shown

theorem explained_afterExecution {record : Record} (explained : record.Explained events)
    (answer : Except ExecutionError Outcome) :
    (unit.afterExecution kind record answer).1.Explained (execution record answer :: events) := by
  have before := explained.mono (List.subset_cons_self (execution record answer) events)
  cases answer with
  | ok outcome => exact before
  | error failure =>
    cases benign : failure.isBenign with
    | true =>
      rw [afterExecution, if_pos benign]
      exact before
    | false =>
      intro error shown
      rw [afterExecution, if_neg (by simp [benign])] at shown
      refine .inr ⟨_, List.mem_cons_self, ?_⟩
      simp only [execution, Event.issue?, Event.listingIssue?, Event.executionIssue?, Event.waitIssue?, benign]
      exact ⟨_, rfl, Option.some.inj shown⟩

/-- Carrying out records explains the errors that they get. -/
theorem CarriedOut.explained (carried : CarriedOut unit kind records events done issues)
    (judged : ∀ record ∈ records, record.Explained []) : ∀ record ∈ done, record.Explained events := by
  induction carried with
  | nil => simp
  | spared _ _ ih =>
    obtain ⟨first, later⟩ := List.forall_mem_cons.mp judged
    exact List.forall_mem_cons.mpr ⟨first.mono (List.nil_subset _), ih later⟩
  | @executed record _ _ events _ _ answer _ ih =>
    obtain ⟨first, later⟩ := List.forall_mem_cons.mp judged
    refine List.forall_mem_cons.mpr ⟨?_, fun record member => (ih later record member).mono ?_⟩
    · exact explained_afterExecution (first.mono (List.nil_subset _)) answer
    · exact List.subset_cons_self _ _

theorem SweptKind.explained {goesOn : Bool}
    (swept : SweptKind unit request kind events (some (result, goesOn))) :
    ∀ record ∈ result.records, record.Explained events := by
  cases swept with
  | unruled | refused | vacant => simp [UnitResult.empty]
  | @judged policy listed later _ _ _ _ _ handled =>
    have judged : ∀ record ∈ listed.map (unit.recordOf policy request.now), record.Explained [] :=
      List.forall_mem_map.mpr fun one _ => explained_recordOf policy request.now one
    have carried : ∀ record ∈ result.records, record.Explained later := by
      cases handled with
      | dry => exact fun record member => (judged record member).mono (List.nil_subset _)
      | applied _ _ carried | settled _ _ carried => exact carried.explained judged
      | paused _ _ carried =>
        exact fun record member => (carried.explained judged record member).mono (List.subset_append_left _ _)
    exact fun record member => (carried record member).mono (List.subset_cons_self _ _)

theorem SweptKinds.explained (swept : SweptKinds unit request kinds events (some result)) :
    ∀ record ∈ result.records, record.Explained events := by
  obtain ⟨turns, all⟩ := swept.turns rfl
  rw [all.records, List.forall_mem_flatMap]
  intro turn member record inside
  exact ((all.swept turn member).explained record inside).mono (all.events_subset member)

end WorkUnit

/-! Runs. -/

namespace Pool

variable {behaviour : Behaviour} {capture : Capture} {request : Request} {pool : Pool} {c : Char}

theorem Reached.explained (reached : Reached behaviour request pool) :
    ∀ record ∈ (pool.report request).records, record.Explained (pool.events.map (·.2)) := by
  intro record member
  obtain ⟨delivery, done, inside⟩ := mem_report_records.mp member
  obtain ⟨-, -, swept⟩ := reached.delivered (List.mem_append_right _ done)
  refine (swept.explained record inside).mono fun event asked => ?_
  exact List.mem_map_of_mem (f := (·.2)) (reached.asked done asked)

theorem lacks_region {unit : WorkUnit} {kind : Kind} (planned : unit ∈ request.units) (turn : kind ∈ unit.kinds)
    (control : c.toNat < 0x20) (regions : ∀ region ∈ request.regions, Lacks c region) : Lacks c unit.region := by
  rcases (Request.mem_sites_iff.mp (Request.site_mem planned turn)).2.2 with ⟨-, asked⟩ | ⟨-, global⟩
  · exact regions unit.region asked
  · rw [global]
    exact Text.lacks_of_isPrintable control (by decide)

/-- A control character in a snapshot of the report was in the capture or in the request. -/
theorem Reached.lacks_snapshot (reached : Reached (.listing capture.lister) request pool) (control : c.toNat < 0x20)
    (regions : ∀ region ∈ request.regions, Lacks c region)
    (inventory : ∀ account region one, capture.Holds account region one → ∀ text ∈ one.texts, Lacks c text) :
    ∀ record ∈ (pool.report request).records, ∀ text ∈ record.snapshot.texts, Lacks c text := by
  intro record member
  obtain ⟨delivery, done, inside⟩ := mem_report_records.mp member
  obtain ⟨planned, allowed, swept⟩ := reached.delivered (List.mem_append_right _ done)
  obtain ⟨turn, -, answered, present, same, -⟩ := swept.recorded rfl inside
  obtain ⟨held, -⟩ := (Capture.mem_lister_iff (allowed _ answered).symm).mp present
  rw [same]
  exact lacks_snapshotOf control (lacks_region planned turn control regions) (inventory _ _ _ held)

theorem Reached.lacks_issue_region (reached : Reached behaviour request pool) (control : c.toNat < 0x20)
    (regions : ∀ region ∈ request.regions, Lacks c region) :
    ∀ issue ∈ (pool.report request).summary.issues, Lacks c issue.region := by
  intro issue member
  obtain ⟨delivery, done, inside⟩ := mem_report_issues.mp member
  obtain ⟨planned, -, swept⟩ := reached.delivered (List.mem_append_right _ done)
  obtain ⟨-, region, turn⟩ := swept.issues_concern rfl issue inside
  rw [region]
  exact lacks_region planned turn control regions

/-- The messages of the issues are those of the failures. -/
theorem Reached.forall_message_iff (reached : Reached behaviour request pool) (finished : pool.isFinished = true)
    {p : String → Prop} : (∀ issue ∈ (pool.report request).summary.issues, p issue.message) ↔
      ∀ entry ∈ pool.events, ∀ issue ∈ entry.2.issue?, p issue.message := by
  have told := (reached.gists_perm finished).map (·.2.2.2.2)
  rw [List.map_map, List.map_map] at told
  have same (message : String) := told.mem_iff (a := message)
  simp only [List.mem_map, List.mem_filterMap] at same
  constructor
  · intro every entry member issue raised
    obtain ⟨other, inside, message⟩ := (same issue.message).mpr
      ⟨issue, ⟨entry.2, ⟨entry, member, rfl⟩, raised⟩, rfl⟩
    exact message ▸ every other inside
  · intro every issue member
    obtain ⟨other, ⟨_, ⟨entry, asked, rfl⟩, raised⟩, message⟩ := (same issue.message).mp ⟨issue, member, rfl⟩
    exact message ▸ every entry asked other raised

/-- Where no text of the capture or of the request has a line break, every record takes one line of its table in
markdown. On a terminal it takes one more for each line break of its error that is shown, and in either of them an
issue takes one more for each in its message. So all of them take one line exactly where no failure was told in
more than one. -/
theorem Reached.laid (reached : Reached (.listing capture.lister) request pool) (finished : pool.isFinished = true)
    (regions : ∀ region ∈ request.regions, Lacks '\n' region)
    (inventory : ∀ account region one, capture.Holds account region one → ∀ text ∈ one.texts, Lacks '\n' text)
    (colour : Bool) :
    let report := pool.report request
    Laid report (Markdown.layout report) (Markdown.document report) ∧
    Laid report (Terminal.layout colour report) (Terminal.reportText colour report) ∧
    ((∀ record ∈ report.records, Terminal.rowHeight record = 1) ∧
        (∀ issue ∈ report.summary.issues, issue.height = 1) ↔
      ∀ entry ∈ pool.events, ∀ issue ∈ entry.2.issue?, Lacks '\n' issue.message) := by
  intro report
  have snapshots := reached.lacks_snapshot (by decide) regions inventory
  have places := reached.lacks_issue_region (by decide) regions
  refine ⟨Markdown.laid_document places, Terminal.laid_reportText colour snapshots places, ?_⟩
  have messages := reached.forall_message_iff finished (p := Lacks '\n')
  have heights : (∀ issue ∈ report.summary.issues, issue.height = 1) ↔
      ∀ issue ∈ report.summary.issues, Lacks '\n' issue.message := by
    simp only [Issue.height, Nat.add_eq_right, Text.breaks_eq_zero_iff]
  rw [heights, messages, and_iff_right_iff_imp]
  intro told record member
  refine Terminal.rowHeight_eq_one fun error shown => ?_
  rcases reached.explained record member error shown with looked | ⟨event, asked, issue, raised, rfl⟩
  · obtain ⟨count, failed⟩ := Rules.lookupError_iff.mp looked
    exact snapshots record member error (by simp [Snapshot.texts, failed, Details.texts])
  · obtain ⟨entry, inside, rfl⟩ := List.mem_map.mp asked
    exact told entry inside issue raised

end Pool

/-- A volume without a tag. -/
def Capture.ofDisk : Capture :=
  Capture.empty.set .main
    { regions := Dictionary.empty.insert "us-east-1" ⟨[], [.untagged], [], [], [], [], []⟩
      buckets := []
      resourceGroups := [] }

def Request.forDisk : Request :=
  ⟨[.main], ["us-east-1"], [.volume], fun _ => some .tagOnly, false, 1, .noon⟩

theorem Capture.ofDisk_holds {account : Account} {region : String} {one : Listed}
    (held : ofDisk.Holds account region one) : one = .volume .untagged := by
  obtain ⟨content, known, held⟩ := held
  cases account with
  | second => cases known
  | main =>
    cases known
    have alone {resources content : RegionCapture}
        (found : (Dictionary.empty.insert "us-east-1" content).get? region = some resources) : resources = content := by
      rw [Dictionary.get?_insert] at found
      split at found <;> cases found
      rfl
    cases one with
    | bucket | resourceGroup => cases held
    | volume record =>
      obtain ⟨resources, found, held⟩ := held
      rw [RegionCapture.Holds, alone found] at held
      rw [List.mem_singleton.mp held]
    | _ =>
      obtain ⟨resources, found, held⟩ := held
      simp [RegionCapture.Holds, alone found] at held

/-- No text of the capture has a line break. -/
theorem Capture.ofDisk_lacks (account : Account) (region : String) (one : Listed)
    (held : ofDisk.Holds account region one) : ∀ text ∈ one.texts, Lacks '\n' text := by
  rw [ofDisk_holds held]
  decide

/-- What comes of the volume where the executor fails in two lines. -/
def UnitResult.ofDisk : UnitResult :=
  let message := "Terminate vol-1 failed: volume in use\ndetach it first"
  let unit : WorkUnit := ⟨.main, "us-east-1", [.volume]⟩
  let record := unit.recordOf .tagOnly .noon (.volume .untagged)
  ⟨[{ record with verdict := { record.verdict with error := some message } }],
    [unit.issue .execution .volume ["vol-1"] message], 0⟩

namespace Pool

theorem exists_disk : ∃ pool, Reached (.listing Capture.ofDisk.lister) .forDisk pool ∧ pool.isFinished = true ∧
    pool.report .forDisk = .assemble .forDisk [.ofDisk] := by
  let answer := Capture.ofDisk.lister.answering (.error (.failed .terminate "vol-1" "volume in use\ndetach it first"))
  have possible (call : Call) : Behaviour.listing Capture.ofDisk.lister call (answer call) :=
    Lister.answering_possible _ _ call
  have run : ((start .forDisk).play .forDisk (Move.alone answer 2 ++ [.send 0, .receive])).map (fun pool =>
      (pool.isFinished, pool.received.map (·.result))) = some (true, [.ofDisk]) := by
    decide +kernel
  obtain ⟨pool, played, found⟩ := Option.map_eq_some_iff.mp run
  obtain ⟨finished, results⟩ := Prod.mk.inj found
  have reached := reached_of_play .start (Move.alone_fits_to_end possible 2) played
  exact ⟨pool, reached, finished, by rw [report, results]⟩

/-- The run of a volume whose failure is told in two lines: its record and its issue take two lines each. -/
theorem laid_disk : ∃ pool, Reached (.listing Capture.ofDisk.lister) .forDisk pool ∧ pool.isFinished = true ∧
    (∀ region ∈ Request.forDisk.regions, Lacks '\n' region) ∧
    (∀ account region one, Capture.ofDisk.Holds account region one → ∀ text ∈ one.texts, Lacks '\n' text) ∧
    let report := pool.report .forDisk
    report.records.map Terminal.rowHeight = [2] ∧ report.summary.issues.map Issue.height = [2] ∧
    Laid report (Markdown.layout report) (Markdown.document report) ∧
    Laid report (Terminal.layout true report) (Terminal.reportText true report) ∧
    ¬ ∀ entry ∈ pool.events, ∀ issue ∈ entry.2.issue?, Lacks '\n' issue.message := by
  obtain ⟨pool, reached, finished, same⟩ := exists_disk
  have regions : ∀ region ∈ Request.forDisk.regions, Lacks '\n' region := by decide
  have rows : (pool.report .forDisk).records.map Terminal.rowHeight = [2] := by
    rw [same]
    decide +kernel
  have issues : (pool.report .forDisk).summary.issues.map Issue.height = [2] := by
    rw [same]
    decide +kernel
  obtain ⟨markdown, terminal, level⟩ := reached.laid finished regions Capture.ofDisk_lacks true
  refine ⟨pool, reached, finished, regions, Capture.ofDisk_lacks, rows, issues, markdown, terminal, fun told => ?_⟩
  obtain ⟨issue, member, height⟩ := List.mem_map.mp (issues ▸ List.mem_singleton_self 2)
  rw [(level.mpr told).2 issue member] at height
  cases height

/-- One record has a table of six lines on a terminal, and one issue takes two lines in either text. -/
theorem overlong_disk :
    (∀ region ∈ Request.forDisk.regions, Lacks '\n' region) ∧
    (∀ account region one, Capture.ofDisk.Holds account region one → ∀ text ∈ one.texts, Lacks '\n' text) ∧
    Request.forDisk.dryRun = false ∧
    ∃ pool, Reached (.listing Capture.ofDisk.lister) .forDisk pool ∧ pool.isFinished = true ∧
      let report := pool.report .forDisk
      report.records.length = 1 ∧ report.summary.issues.length = 1 ∧
      (∃ (tables : List (List String)) (issues : List String), Text.splitOn '\n' (Terminal.reportText false report) =
        (Terminal.heading report).flatMap (Text.splitOn '\n') ++ tables.flatten ++ issues ++ [""] ∧
          tables.map List.length = [4 + 2] ∧ issues.length = 2 + 2) ∧
      ∃ (tables : List (List String)) (issues : List String), Text.splitOn '\n' (Markdown.document report) =
        (Markdown.facts report).flatMap (Text.splitOn '\n') ++ tables.flatten ++ issues ++ [""] ∧
          tables.map List.length = [5 + 1] ∧ issues.length = 3 + 2 := by
  refine ⟨by decide, Capture.ofDisk_lacks, rfl, ?_⟩
  obtain ⟨pool, reached, finished, same⟩ := exists_disk
  refine ⟨pool, reached, finished, ?_⟩
  have snapshots := reached.lacks_snapshot (c := '\n') (by decide) (by decide) Capture.ofDisk_lacks
  have places := reached.lacks_issue_region (c := '\n') (by decide) (by decide)
  have terminal := (Terminal.laid_reportText false snapshots places).exists_lengths
  have markdown := (Markdown.laid_document places).exists_lengths
  rw [same] at terminal markdown ⊢
  refine ⟨by decide +kernel, by decide +kernel, ?_, ?_⟩
  · obtain ⟨tables, issues, lines, heights, height⟩ := terminal
    exact ⟨tables, issues, lines, heights.trans (by decide +kernel), height.trans (by decide +kernel)⟩
  · obtain ⟨tables, issues, lines, heights, height⟩ := markdown
    exact ⟨tables, issues, lines, heights.trans (by decide +kernel), height.trans (by decide +kernel)⟩

end Pool
end Retention
