import Retention.Proofs.Ages
import Retention.Proofs.Json.Record
import Retention.Proofs.Timestamps
import Retention.Proofs.Verdict
import Retention.Report.Codec

/-!
Reports are read back from their texts. Every part of a report is denoted by its written form, so the
whole is; only creation times of negative years have no written form.
-/
namespace Retention

open Json (Denotes denotes_array denotes_choice denotes_dictionary denotes_list denotes_mapM denotes_orNull
  denotes_str denotes_strings denotes_word)

/-! Choices. -/

theorem Kind.lookup_name (kind : Kind) : codes.lookup kind.name = some kind := by
  cases kind <;> rfl

theorem Kind.denotes_toJson (kind : Kind) : Denotes ofJson? kind.toJson kind :=
  denotes_choice kind.lookup_name

theorem Account.denotes_toJson (account : Account) : Denotes ofJson? account.toJson account :=
  denotes_choice (by cases account <;> rfl)

theorem Operation.denotes_toJson (operation : Operation) :
    Denotes ofJson? operation.toJson operation :=
  denotes_choice (by cases operation <;> rfl)

theorem Reason.denotes_toJson (reason : Reason) : Denotes ofJson? reason.toJson reason :=
  denotes_choice (by cases reason <;> rfl)

theorem IssueKind.denotes_code (kind : IssueKind) :
    Denotes (Json.choice? codes) (.str kind.code) kind :=
  denotes_choice (by cases kind <;> rfl)

/-! Snapshots. -/

theorem Tags.denotes_toJson (tags : Tags) : Denotes ofJson? tags.toJson tags :=
  denotes_dictionary fun tag _ => denotes_str tag.2

/-- No tags at all are not written like an empty set of tags. -/
theorem Tags.denotes_orNull (tags : Option Tags) :
    Denotes (Json.orNull? ofJson?) (.orNull toJson tags) tags :=
  Json.denotes_orNull denotes_toJson (by simp [toJson]) tags

theorem Instant.denotes_toJson? {instant : Instant} {value : Json}
    (written : instant.toJson? = some value) : Denotes ofJson? value instant := by
  obtain ⟨text, found, rfl⟩ := Option.map_eq_some_iff.mp written
  exact ⟨.str text, Timestamp.internet?_internetText found⟩

theorem TagLookup.denotes_toJson (lookup : TagLookup) : Denotes ofJson? lookup.toJson lookup := by
  cases lookup with
  | found => exact ⟨.object (by simp), rfl⟩
  | noTagSet => exact ⟨.object (by simp), rfl⟩
  | failed message => exact ⟨.object (by simp), rfl⟩

theorem AttachedVolume.denotes_toJson (volume : AttachedVolume) :
    Denotes ofJson? volume.toJson volume :=
  ⟨.object (by simp), rfl⟩

namespace Details

theorem denotes_volumes (volumes : List AttachedVolume) :
    Denotes (Json.list? AttachedVolume.ofJson?) (.array (volumes.map AttachedVolume.toJson)) volumes :=
  denotes_list AttachedVolume.denotes_toJson volumes

theorem denotes_iops (iops : Option UInt64) :
    Denotes (Json.orNull? Json.word64?) (.orNull .word iops) iops :=
  denotes_orNull denotes_word (by simp [Json.word, Json.nat]) iops

theorem denotes_vpcId (vpcId : Option String) :
    Denotes (Json.orNull? Json.text?) (.orNull .str vpcId) vpcId :=
  denotes_orNull denotes_str (by simp) vpcId

theorem plain_fields (details : Details) : ∀ field ∈ details.fields, Json.Plain field.2 := by
  cases details with
  | vmInstance _ _ _ volumes => simp [fields, (denotes_volumes volumes).plain]
  | volume _ _ _ _ iops => simp [fields, (denotes_iops iops).plain]
  | image => simp [fields]
  | snapshot => simp [fields]
  | securityGroup _ vpcId attached =>
    simp [fields, (denotes_vpcId vpcId).plain, (denotes_strings attached).plain]
  | dbInstance => simp [fields]
  | dbSnapshot => simp [fields]
  | bucket _ tagLookup => simp [fields, (TagLookup.denotes_toJson tagLookup).plain]
  | resourceGroup => simp [fields]

theorem ofFields?_fields (details : Details) :
    ofFields? details.kind (.object details.fields) = some details := by
  cases details with
  | vmInstance _ _ _ volumes =>
    simp [ofFields?, kind, fields, Json.slots, Json.slotOf, Json.Slot.required,
      (denotes_volumes volumes).reads]
  | volume _ _ _ _ iops =>
    simp [ofFields?, kind, fields, Json.slots, Json.slotOf, Json.Slot.required, Json.Slot.optional,
      (denotes_iops iops).reads]
  | image => rfl
  | snapshot => simp [ofFields?, kind, fields, Json.slots, Json.slotOf, Json.Slot.required]
  | securityGroup _ vpcId attached =>
    simp [ofFields?, kind, fields, Json.slots, Json.slotOf, Json.Slot.required, Json.Slot.optional,
      (denotes_vpcId vpcId).reads, (denotes_strings attached).reads]
  | dbInstance => simp [ofFields?, kind, fields, Json.slots, Json.slotOf, Json.Slot.required]
  | dbSnapshot => rfl
  | bucket _ tagLookup =>
    simp [ofFields?, kind, fields, Json.slots, Json.slotOf, Json.Slot.required,
      (TagLookup.denotes_toJson tagLookup).reads]
  | resourceGroup => rfl

/-- The name of the kind stands beside the fields, and none of them has its key. -/
theorem tagged?_toJson (details : Details) :
    details.toJson.tagged? "kind" = some (details.kind.toJson, .object details.fields) := by
  cases details <;> rfl

theorem denotes_toJson (details : Details) : Denotes ofJson? details.toJson details := by
  constructor
  · exact .object (List.forall_mem_cons.mpr
      ⟨details.kind.denotes_toJson.plain, details.plain_fields⟩)
  · simp [ofJson?, tagged?_toJson, Kind.toJson, Kind.lookup_name, ofFields?_fields]

end Details

/-- A moment has a written form if its year is not negative. -/
theorem Instant.isSome_toJson? (instant : Instant) :
    instant.toJson?.isSome = true ↔ 0 ≤ instant.date.year := by
  simp [toJson?, Timestamp.internetText?, apply_ite Option.isSome]

namespace Snapshot

variable {snapshot : Snapshot} {value : Json}

/-- Whether all creation times have a written form. -/
def IsDated (snapshot : Snapshot) : Prop :=
  ∀ created, snapshot.createdAt = some created → 0 ≤ created.date.year

theorem isSome_toJson? (snapshot : Snapshot) :
    snapshot.toJson?.isSome = true ↔ snapshot.IsDated := by
  unfold IsDated toJson?
  cases snapshot.createdAt with
  | none => simp
  | some created =>
    simp [← Instant.isSome_toJson?]
    cases created.toJson? <;> rfl

theorem of_toJson? (written : snapshot.toJson? = some value) :
    ∃ createdAt, Denotes (Json.orNull? Instant.ofJson?) createdAt snapshot.createdAt ∧
      value = .object
        [("id", .str snapshot.id), ("account", snapshot.account.toJson),
         ("region", .str snapshot.region), ("created_at", createdAt),
         ("tags", .orNull Tags.toJson snapshot.tags), ("details", snapshot.details.toJson)] := by
  unfold toJson? at written
  cases birth : snapshot.createdAt with
  | none =>
    rw [birth] at written
    cases written
    exact ⟨.null, ⟨.null, rfl⟩, rfl⟩
  | some created =>
    rw [birth] at written
    obtain ⟨createdAt, told, same⟩ := Option.bind_eq_some_iff.mp written
    cases same
    have moment := Instant.denotes_toJson? told
    refine ⟨createdAt, ⟨moment.plain, ?_⟩, rfl⟩
    rw [Json.orNull?, moment.reads, Option.map_some]
    rintro rfl
    cases moment.reads

theorem denotes_toJson? (written : snapshot.toJson? = some value) :
    Denotes ofJson? value snapshot := by
  obtain ⟨createdAt, created, rfl⟩ := of_toJson? written
  have account := snapshot.account.denotes_toJson
  have tags := Tags.denotes_orNull snapshot.tags
  have details := snapshot.details.denotes_toJson
  constructor
  · exact .object (by simp [account.plain, created.plain, tags.plain, details.plain])
  · simp [ofJson?, Json.slots, Json.slotOf, Json.Slot.required, Json.Slot.optional, account.reads,
      created.reads, tags.reads, details.reads]

end Snapshot

/-! Verdicts and records. -/

/-- The count of days fits into a machine word. -/
def Age.Fits (age : Age) : Prop := ∀ count, age = .days count → count < UInt64.size

/-- No age between two moments with a UTC date is longer than the calendar. -/
theorem Age.fits_since {strict : Bool} {now : Instant} {createdAt : Option Instant}
    (defined : isDefined now createdAt = true) : (since strict now createdAt).Fits := by
  cases createdAt with
  | none => simp [since, Fits]
  | some created =>
    rintro _ ⟨⟩
    simp only [isDefined, Instant.hasUtcDate, Bool.and_eq_true, decide_eq_true_eq] at defined
    have calendar : Date.last - Date.first < UInt64.size := by decide
    have days := @wholeDays_le created now strict
    omega

/-- Wherever there is a verdict, its age fits. -/
theorem Rules.fits_decide {snapshot : Snapshot} {policy : Policy} {now : Instant}
    (defined : isDefined snapshot policy now = true) : (decide snapshot policy now).age.Fits := by
  rw [decide_eq]
  cases consulted : consultsAge snapshot policy with
  | false => simp [Age.Fits]
  | true =>
    simp only [isDefined, consulted, Bool.not_true, Bool.false_or] at defined
    exact Age.fits_since defined

theorem Age.denotes_toJson {age : Age} (fits : age.Fits) :
    ∃ count, Denotes (Json.orNull? Json.word64?) age.toJson count ∧ ofDays? count = age := by
  cases age with
  | unknown => exact ⟨none, ⟨.null, rfl⟩, rfl⟩
  | days count =>
    have below := fits count rfl
    refine ⟨some (.ofNat count), ⟨.int count, ?_⟩, ?_⟩
    · have read : (toJson (.days count)).word64? = some (.ofNat count) := by
        rw [toJson, Json.word64?, Json.nat?_nat below, Option.map_some]
      rw [Json.orNull?, read, Option.map_some]
      simp [toJson, Json.nat]
    · rw [ofDays?, UInt64.toNat_ofNat_of_lt' below]

theorem Verdict.denotes_toJson {verdict : Verdict} (fits : verdict.age.Fits) :
    Denotes ofJson? verdict.toJson verdict := by
  obtain ⟨operation, tagOperation, reason, age, tags, error⟩ := verdict
  have settled := operation.denotes_toJson
  have byTags := tagOperation.denotes_toJson
  have grounds := reason.denotes_toJson
  obtain ⟨count, counted, same⟩ := Age.denotes_toJson fits
  have labels := Tags.denotes_orNull tags
  constructor
  · refine .object ?_
    cases error <;>
      simp [settled.plain, byTags.plain, grounds.plain, counted.plain, labels.plain]
  · cases error with
    | none =>
      simp [ofJson?, toJson, Json.slots, Json.slotOf, Json.Slot.required, Json.Slot.optional,
        settled.reads, byTags.reads, grounds.reads, counted.reads, same, labels.reads]
    | some error =>
      simp [ofJson?, toJson, Json.slots, Json.slotOf, Json.Slot.required, Json.Slot.optional,
        settled.reads, byTags.reads, grounds.reads, counted.reads, same, labels.reads]

theorem Record.isSome_toJson? (record : Record) :
    record.toJson?.isSome = true ↔ record.snapshot.IsDated := by
  rw [← Snapshot.isSome_toJson?, toJson?]
  cases record.snapshot.toJson? <;> rfl

theorem Record.denotes_toJson? {record : Record} {value : Json} (fits : record.verdict.age.Fits)
    (written : record.toJson? = some value) : Denotes ofJson? value record := by
  obtain ⟨snapshot, told, same⟩ := Option.bind_eq_some_iff.mp written
  cases same
  have listed := Snapshot.denotes_toJson? told
  have judged := Verdict.denotes_toJson fits
  constructor
  · exact .object (by simp [listed.plain, judged.plain])
  · simp [ofJson?, Json.slots, Json.slotOf, Json.Slot.required, Json.Slot.defaulted, listed.reads,
      judged.reads]

/-! Issues and summaries. -/

/-- An empty list of ids is not written, and no list is read as an empty one. -/
theorem Issue.denotes_toJson (issue : Issue) : Denotes ofJson? issue.toJson issue := by
  obtain ⟨kind, account, region, resourceKind, resourceIds, message⟩ := issue
  have code := kind.denotes_code
  have site := account.denotes_toJson
  have listed := resourceKind.denotes_toJson
  have ids := denotes_strings resourceIds
  cases resourceIds with
  | nil =>
    constructor
    · exact .object (by simp [site.plain, listed.plain])
    · simp [ofJson?, toJson, Json.slots, Json.slotOf, Json.Slot.required, Json.Slot.defaulted,
        code.reads, site.reads, listed.reads]
  | cons id ids' =>
    constructor
    · exact .object (by simp [site.plain, listed.plain, ids.plain])
    · simp [ofJson?, toJson, Json.slots, Json.slotOf, Json.Slot.required, Json.Slot.defaulted,
        code.reads, site.reads, listed.reads, ids.reads]

/-- The counts of a summary fit into machine words. -/
structure Summary.Fits (summary : Summary) : Prop where
  operations : ∀ entry ∈ summary.operations.entries, entry.2 < UInt64.size
  emptyListings : summary.emptyListings < UInt64.size

theorem Summary.denotes_toJson {summary : Summary} (fits : summary.Fits) :
    Denotes ofJson? summary.toJson summary := by
  have accounts := denotes_list Account.denotes_toJson summary.accounts
  have regions := denotes_strings summary.regions
  have kinds := denotes_list Kind.denotes_toJson summary.kinds
  have counts : Denotes (Json.dictionary? (Json.nat? UInt64.size))
      (.object (summary.operations.entries.map fun entry => (entry.1, .nat entry.2)))
      summary.operations :=
    denotes_dictionary fun entry member =>
      ⟨Json.plain_nat entry.2, Json.nat?_nat (fits.operations entry member)⟩
  have empty := Json.nat?_nat fits.emptyListings
  have issues := denotes_list Issue.denotes_toJson summary.issues
  have notes := denotes_strings summary.notes
  constructor
  · exact .object (by
      simp [accounts.plain, regions.plain, kinds.plain, counts.plain, issues.plain, notes.plain])
  · simp [ofJson?, toJson, Json.slots, Json.slotOf, Json.Slot.required, accounts.reads, regions.reads,
      kinds.reads, counts.reads, empty, issues.reads, notes.reads]

/-! Reports. -/

namespace Report

/-- The ages and counts in the report fit into machine words. -/
structure Fits (report : Report) : Prop where
  summary : report.summary.Fits
  ages : ∀ record ∈ report.records, record.verdict.age.Fits

/-- All creation times in the report have a written form. -/
def IsDated (report : Report) : Prop := ∀ record ∈ report.records, record.snapshot.IsDated

variable {report : Report} {value : Json}

theorem isSome_toJson? (report : Report) : report.toJson?.isSome = true ↔ report.IsDated := by
  have each : (report.records.mapM Record.toJson?).isSome = true ↔ report.IsDated := by
    simp only [isSome_mapM_iff, Record.isSome_toJson?, IsDated]
  rw [← each, toJson?]
  cases report.records.mapM Record.toJson? <;> rfl

theorem denotes_toJson? (fits : report.Fits) (written : report.toJson? = some value) :
    Denotes ofJson? value report := by
  obtain ⟨records, told, same⟩ := Option.bind_eq_some_iff.mp written
  cases same
  have summary := Summary.denotes_toJson fits.summary
  have listed := denotes_mapM
    (fun record member _ written => Record.denotes_toJson? (fits.ages record member) written) told
  constructor
  · exact .object (by simp [summary.plain, listed.plain])
  · simp [ofJson?, Json.slots, Json.slotOf, Json.Slot.required, summary.reads, listed.reads]

/-- A report is written if all its creation times can be, and it is read back as it was from the text,
whether this stands on one line, on several or as it is printed. -/
theorem parse?_toJson? (fits : report.Fits) (dated : report.IsDated) :
    ∃ value, report.toJson? = some value ∧
      (Json.parse? value.compact).bind ofJson? = some report ∧
      (Json.parse? value.pretty).bind ofJson? = some report ∧
      (Json.parse? (value.pretty ++ "\n")).bind ofJson? = some report := by
  obtain ⟨value, written⟩ := Option.isSome_iff_exists.mp (report.isSome_toJson?.mpr dated)
  exact ⟨value, written, (denotes_toJson? fits written).parsed⟩

/-- A report with what is easily confused: tags that are absent and an empty set of them, an age that is
not known and one of no days, an issue without ids, and a moment told in another zone. -/
def assorted : Report where
  schemaVersion := "1"
  toolVersion := "0.1.0"
  name := "nightly \"full\""
  generatedAt := "2024-06-15T12:00:00Z"
  summary :=
    { dryRun := true
      accounts := [.main, .second]
      regions := ["us-east-1"]
      kinds := [.volume, .bucket]
      operations := .ofList [("Keep", 1), ("N/A", 1)]
      emptyListings := 2
      issues :=
        [⟨.listing, .main, "us-east-1", .image, [], "throttled\n"⟩,
         ⟨.waitTimeout, .second, "us-east-1", .vmInstance, ["i-1", "i-2"], "no end"⟩]
      notes := [] }
  records :=
    [{ snapshot :=
        { id := "vol-1"
          account := .main
          region := "us-east-1"
          createdAt := Timestamp.internet? "2024-06-15T19:30:00.12-05:30".toList
          tags := some .empty
          details := .volume "us-east-1a" "available" "gp3" 8 none }
       verdict := ⟨.keep, .terminate, .youngerThanThreshold, .days 0, some .empty, none⟩
       failedCount := 0 },
     { snapshot :=
        { id := "logs"
          account := .second
          region := "global"
          createdAt := none
          tags := none
          details := .bucket 18446744073709551615 (.failed "denied \\ é") }
       verdict :=
        ⟨.notApplicable, .notApplicable, .tagLookupFailed, .unknown, none, some "denied \\ é"⟩
       failedCount := 3 }]

theorem parse?_toJson?_assorted : assorted.Fits ∧ assorted.IsDated ∧
    ∃ value, assorted.toJson? = some value ∧
      (Json.parse? value.compact).bind ofJson? = some assorted ∧
      (Json.parse? value.pretty).bind ofJson? = some assorted ∧
      (Json.parse? (value.pretty ++ "\n")).bind ofJson? = some assorted := by
  have fits : assorted.Fits := by
    refine ⟨⟨?_, ?_⟩, ?_⟩
    · decide
    · decide
    · simp [assorted, Age.Fits]
  have dated : assorted.IsDated := assorted.isSome_toJson?.mp rfl
  exact ⟨fits, dated, parse?_toJson? fits dated⟩

end Report
end Retention
