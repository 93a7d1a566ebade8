import Retention.CommandLine.Program
import Retention.Proofs.Capture
import Retention.Proofs.Sweep.Audit
import Retention.Proofs.Verdict

/-!
An application sweeps twice: a preview, and after its approval the run that carries things out. Either
sweep reads the clock for itself. What is carried out has been in the preview, except for resources whose
age has passed the threshold in between.
-/
namespace Retention

theorem Program.Context.request_eq_ok {settings : Settings} {accounts : List Account}
    {kinds : List Kind} {dryRun : Bool} {now : Instant} {made : Request}
    (made_eq : Program.Context.request settings accounts kinds dryRun now = .ok made) :
    ∃ policies, settings.resolvePolicies kinds = .ok policies ∧
      made = ⟨accounts, settings.resolveRegions.1, kinds, policies, dryRun,
        settings.workers.toNat, now⟩ := by
  unfold Program.Context.request at made_eq
  cases resolved : settings.resolvePolicies kinds with
  | error failure =>
    rw [resolved] at made_eq
    cases made_eq
  | ok policies =>
    rw [resolved] at made_eq
    cases made_eq
    exact ⟨policies, rfl, rfl⟩

namespace Pool

variable {capture : Capture} {request : Request} {pool : Pool}

/-- A finished dry run over a capture has the record of every resource that it was to judge. -/
theorem Reached.recordOf_mem (reached : Reached (.listing capture.lister) request pool)
    (finished : pool.isFinished = true) (dry : request.dryRun = true) {unit : WorkUnit}
    (planned : unit ∈ request.units) {kind : Kind} (turn : kind ∈ unit.kinds) {policy : Policy}
    (ruled : request.policies kind = some policy) {listed : List Listed}
    (answered : capture.lister unit.account unit.region kind = .ok listed) {one : Listed}
    (present : one ∈ listed) :
    unit.recordOf policy request.now one ∈ (pool.report request).records := by
  have received := (reached.received_units finished).mem_iff.mpr planned
  obtain ⟨delivery, done, rfl⟩ := List.mem_map.mp received
  obtain ⟨-, allowed, swept⟩ := reached.delivered (List.mem_append_right _ done)
  exact mem_report_records.mpr
    ⟨delivery, done, swept.records_all rfl allowed dry turn ruled answered present⟩

theorem Reached.verdict_eq (reached : Reached (.listing capture.lister) request pool)
    (dry : request.dryRun = true) {record : Record}
    (member : record ∈ (pool.report request).records) :
    ∃ policy, request.policies record.snapshot.kind = some policy ∧
      record.verdict = Rules.decide record.snapshot policy request.now := by
  obtain ⟨delivery, done, inside⟩ := mem_report_records.mp member
  obtain ⟨-, allowed, swept⟩ := reached.delivered (List.mem_append_right _ done)
  obtain ⟨-, ruled, answered, present, -, untouched⟩ := swept.recorded rfl inside
  have served := ((Capture.mem_lister_iff (allowed _ answered).symm).mp present).2
  rw [untouched dry]
  refine ⟨_, ?_, rfl⟩
  rw [WorkUnit.recordOf, WorkUnit.kind_snapshotOf, served]
  exact ruled

/-- What an application carries out at the later reading of the clock has been in its preview, with the
same operation, unless the age of the resource has passed the threshold between the readings. -/
theorem Reached.previewed_iff_not_ripens {settings : Settings} {accounts : List Account}
    {kinds : List Kind} {earlier later : Instant} {draft final : Request} {preview : Pool}
    (drafted : Program.Context.request settings accounts kinds true earlier = .ok draft)
    (finalized : Program.Context.request settings accounts kinds false later = .ok final)
    (previewed : Reached (.listing capture.lister) draft preview)
    (finished : preview.isFinished = true)
    (reached : Reached (.listing capture.lister) final pool) {unit : WorkUnit} {event : Event}
    (member : (unit, event) ∈ pool.events) {operation : Operation} {snapshot : Snapshot}
    (asked : event.call = .execute operation snapshot) :
    ∃ policy, final.policies snapshot.kind = some policy ∧
      ((∃ record ∈ (preview.report draft).pending,
          record.snapshot = snapshot ∧ record.verdict.operation = operation) ↔
        ¬ Rules.Ripens snapshot policy earlier later) := by
  obtain ⟨policies, resolved, rfl⟩ := Program.Context.request_eq_ok drafted
  obtain ⟨policies', resolved', rfl⟩ := Program.Context.request_eq_ok finalized
  cases resolved.symm.trans resolved'
  obtain ⟨planned, dialogue, allowed, caused⟩ :=
    reached.caused (Behaviour.listing_responds _) member asked
  cases caused with
  | @intro kind policy listed one wet turn ruled answered present mutating =>
  have served : capture.lister unit.account unit.region kind = .ok listed :=
    (allowed _ answered).symm
  have own : (unit.snapshotOf one).kind = kind := by
    rw [WorkUnit.kind_snapshotOf]
    exact ((Capture.mem_lister_iff served).mp present).2
  refine ⟨policy, by rw [own]; exact ruled, ?_⟩
  -- Both sweeps judge the same snapshot under the same policy, so only its age can part them.
  have due := Rules.not_spared_of_isMutating mutating
  rw [← Rules.spared_iff_ripens due, Bool.not_eq_true]
  constructor
  · intro found
    obtain ⟨record, inside, same, -⟩ := found
    obtain ⟨recorded, pending⟩ := List.mem_filter.mp inside
    obtain ⟨policy', ruled', verdict⟩ := previewed.verdict_eq rfl recorded
    rw [same, own] at ruled'
    cases ruled.symm.trans ruled'
    rw [verdict, same] at pending
    exact Rules.not_spared_of_isMutating pending
  · intro early
    have recorded := previewed.recordOf_mem finished rfl planned turn ruled served present
    have agree : (Rules.decide (unit.snapshotOf one) policy earlier).operation =
        (Rules.decide (unit.snapshotOf one) policy later).operation := by
      rw [Rules.decide_operation, Rules.decide_operation, early, due]
    refine ⟨_, List.mem_filter.mpr ⟨recorded, ?_⟩, rfl, agree⟩
    exact (congrArg Operation.isMutating agree).trans mutating

end Pool

/-- Settings that keep images for a day. -/
def Settings.dailyImages : Settings :=
  { kinds := Dictionary.empty.insert "image" ⟨some "tag-with-age", some 1⟩ }

/-- The requests of an application for images under these settings. -/
def Request.forImages (dryRun : Bool) (now : Instant) : Request :=
  ⟨[.main], ["us-east-1"], [.image], PolicyTable.empty.set .image (.tagWithAge 1), dryRun, 4, now⟩

theorem request_dailyImages (dryRun : Bool) (now : Instant) :
    Program.Context.request .dailyImages [.main] [.image] dryRun now =
      .ok (.forImages dryRun now) := rfl

def Provider.Image.old : Provider.Image :=
  ⟨"ami-old", "base", "machine", some "2024-01-01T00:00:00Z", none⟩

/-- An image that is two days old at noon, and not a second before. -/
def Provider.Image.young : Provider.Image :=
  ⟨"ami-young", "base", "machine", some "2024-06-13T12:00:00Z", none⟩

def Capture.twoImages : Capture :=
  Capture.empty.set .main
    { regions := Dictionary.empty.insert "us-east-1" ⟨[], [], [.old, .young], [], [], [], []⟩
      buckets := []
      resourceGroups := [] }

namespace Pool

/-- An application whose preview ends just before noon and which carries out two images at noon. -/
theorem application_at_noon :
    ∃ preview pool,
      Reached (.listing Capture.twoImages.lister) (.forImages true .beforeNoon) preview ∧
      preview.isFinished = true ∧
      (preview.received.flatMap (·.result.records)).map
        (fun record => (record.snapshot.id, record.verdict.operation)) =
          [("ami-old", .deregister), ("ami-young", .keep)] ∧
      Reached (.listing Capture.twoImages.lister) (.forImages false .noon) pool ∧
      pool.events.map (·.2.call) =
        [.list .main "us-east-1" .image,
          .execute .deregister (.ofListed (.image .old) .main "us-east-1"),
          .execute .deregister (.ofListed (.image .young) .main "us-east-1")] := by
  let answer := Capture.twoImages.lister.answering (.ok ⟨0⟩)
  have possible := Capture.twoImages.lister.answering_possible (.ok ⟨0⟩)
  let draft := Request.forImages true .beforeNoon
  let final := Request.forImages false .noon
  have drafting : ((start draft).play draft (Move.alone answer 1 ++ [.send 0, .receive])).map
      (fun pool => (pool.isFinished, (pool.received.flatMap (·.result.records)).map
        fun record => (record.snapshot.id, record.verdict.operation))) =
      some (true, [("ami-old", .deregister), ("ami-young", .keep)]) := by
    decide +kernel
  have carrying : ((start final).play final (Move.alone answer 3)).map (·.events.map (·.2.call)) =
      some [.list .main "us-east-1" .image,
        .execute .deregister (.ofListed (.image .old) .main "us-east-1"),
        .execute .deregister (.ofListed (.image .young) .main "us-east-1")] := by
    decide +kernel
  obtain ⟨preview, played, found⟩ := Option.map_eq_some_iff.mp drafting
  obtain ⟨pool, played', asked⟩ := Option.map_eq_some_iff.mp carrying
  obtain ⟨finished, records⟩ := Prod.mk.inj found
  exact ⟨preview, pool, reached_of_play .start (Move.alone_fits_to_end possible 1) played, finished, records,
    reached_of_play .start (Move.alone_fits possible 3) played', asked⟩

/-- The old image is carried out, and it has been in the preview. -/
theorem previewed_iff_not_ripens_old :
    let snapshot := Snapshot.ofListed (.image .old) .main "us-east-1"
    ∃ preview pool,
      Reached (.listing Capture.twoImages.lister) (.forImages true .beforeNoon) preview ∧
      preview.isFinished = true ∧
      Reached (.listing Capture.twoImages.lister) (.forImages false .noon) pool ∧
      (∃ entry ∈ pool.events, entry.2.call = .execute .deregister snapshot) ∧
      ∃ policy, (Request.forImages false .noon).policies .image = some policy ∧
        ((∃ record ∈ (preview.report (.forImages true .beforeNoon)).pending,
            record.snapshot = snapshot ∧ record.verdict.operation = .deregister) ↔
          ¬ Rules.Ripens snapshot policy .beforeNoon .noon) := by
  intro snapshot
  obtain ⟨preview, pool, previewed, finished, -, reached, asked⟩ := application_at_noon
  have executed : Call.execute .deregister snapshot ∈ pool.events.map (·.2.call) := by
    rw [asked]
    simp [snapshot]
  obtain ⟨entry, member, called⟩ := List.mem_map.mp executed
  exact ⟨preview, pool, previewed, finished, reached, ⟨entry, member, called⟩,
    previewed.previewed_iff_not_ripens (request_dailyImages true .beforeNoon)
      (request_dailyImages false .noon) finished reached member called⟩

/-- The young image is carried out although the preview, a second earlier, has no such operation. -/
theorem executed_without_preview :
    ∃ draft final preview pool,
      Program.Context.request .dailyImages [.main] [.image] true .beforeNoon = .ok draft ∧
      Program.Context.request .dailyImages [.main] [.image] false .noon = .ok final ∧
      Instant.beforeNoon.unixNanos ≤ Instant.noon.unixNanos ∧
      Reached (.listing Capture.twoImages.lister) draft preview ∧ preview.isFinished = true ∧
      Reached (.listing Capture.twoImages.lister) final pool ∧
      (∃ entry ∈ pool.events, entry.2.call =
        .execute .deregister (.ofListed (.image .young) .main "us-east-1")) ∧
      ∀ record ∈ (preview.report draft).pending, record.snapshot.id ≠ "ami-young" := by
  obtain ⟨preview, pool, previewed, finished, records, reached, asked⟩ := application_at_noon
  refine ⟨_, _, preview, pool, rfl, rfl, by decide, previewed, finished, reached, ?_, ?_⟩
  · have executed : Call.execute .deregister (.ofListed (.image .young) .main "us-east-1") ∈
        pool.events.map (·.2.call) := by
      rw [asked]
      simp
    obtain ⟨entry, member, called⟩ := List.mem_map.mp executed
    exact ⟨entry, member, called⟩
  · intro record inside young
    obtain ⟨recorded, pending⟩ := List.mem_filter.mp inside
    obtain ⟨delivery, done, own⟩ := mem_report_records.mp recorded
    have listed : record ∈ preview.received.flatMap (·.result.records) :=
      List.mem_flatMap.mpr ⟨delivery, done, own⟩
    have told := List.mem_map_of_mem
      (f := fun record : Record => (record.snapshot.id, record.verdict.operation)) listed
    rw [records, young] at told
    simp only [List.mem_cons, List.not_mem_nil, or_false, Prod.mk.injEq] at told
    rcases told with ⟨other, -⟩ | ⟨-, kept⟩
    · exact absurd other (by decide)
    · simp [kept, Operation.isMutating] at pending

end Pool
end Retention
