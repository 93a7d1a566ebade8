import Retention.Proofs.Capture
import Retention.Proofs.Sweep.Executions
import Retention.Proofs.Verdict

/-!
Protected resources. Protection is read off the capture itself: off the tags, states and references that
a provider lists. No run over the capture asks for an operation that the protection of a resource rules
out, whoever carries the operations out and whatever comes of them.
-/
namespace Retention

/-- The id and the tags of a resource that is kept by a tag with its own id. -/
def Listed.identity? : Listed → Option (String × List Provider.Tag)
  | .vmInstance record => record.tags.map (record.instanceId, ·)
  | .volume record => record.tags.map (record.volumeId, ·)
  | .image record => record.tags.map (record.imageId, ·)
  | .snapshot record => record.tags.map (record.snapshotId, ·)
  | .dbInstance record => record.tags.map (record.identifier, ·)
  | .dbSnapshot record => record.tags.map (record.identifier, ·)
  | .securityGroup .. | .bucket _ | .resourceGroup _ => none

namespace Capture

/-- The operations that a listed resource is protected from. -/
inductive Protects (capture : Capture) (account : Account) (region : String) :
    Listed → Operation → Prop
  | kept {listed : Listed} {id : String} {tags : List Provider.Tag} {operation : Operation}
      (identity : listed.identity? = some (id, tags))
      (own : Provider.Tagged tags Rules.keepKey id) (removes : operation.Removes) :
      Protects capture account region listed operation
  | running {record : Provider.VmInstance} {tags : List Provider.Tag} {state : String}
      {operation : Operation} (tagged : record.tags = some tags)
      (own : Provider.Tagged tags Rules.keepKey record.instanceId)
      (kept : Provider.Tagged tags Rules.keepStateKey state) :
      Protects capture account region (.vmInstance record) operation
  | serving {record : Provider.DbInstance} {tags : List Provider.Tag} {state : String}
      {operation : Operation} (tagged : record.tags = some tags)
      (own : Provider.Tagged tags Rules.keepKey record.identifier)
      (kept : Provider.Tagged tags Rules.keepStateKey state) (filled : state ≠ "") :
      Protects capture account region (.dbInstance record) operation
  | unavailable {record : Provider.Volume} {operation : Operation}
      (state : record.state ≠ "available") :
      Protects capture account region (.volume record) operation
  | automatic {record : Provider.DbSnapshot} {operation : Operation}
      (type : record.snapshotType ≠ "manual") :
      Protects capture account region (.dbSnapshot record) operation
  | keptGroup {record : Provider.SecurityGroup} {attachedInstances : List String}
      {tags : List Provider.Tag} {value : String} {operation : Operation}
      (tagged : record.tags = some tags) (kept : Provider.Tagged tags Rules.keepKey value) :
      Protects capture account region (.securityGroup record attachedInstances) operation
  | defaultGroup {record : Provider.SecurityGroup} {attachedInstances : List String}
      {operation : Operation} (name : record.groupName = "default") :
      Protects capture account region (.securityGroup record attachedInstances) operation
  | usedGroup {record : Provider.SecurityGroup} {attachedInstances : List String}
      {operation : Operation} (used : capture.Refers account region record.groupId) :
      Protects capture account region (.securityGroup record attachedInstances) operation
  | unreadableBucket {record : Provider.Bucket} {failure : Provider.TagFailure}
      {operation : Operation} (failed : record.tagError = some failure)
      (other : failure.code ≠ Provider.noTagSetCode) :
      Protects capture account region (.bucket record) operation
  | emptyBucket {record : Provider.Bucket} {operation : Operation} (empty : record.keyCount = 0) :
      Protects capture account region (.bucket record) operation
  | keptBucket {record : Provider.Bucket} {tags : List Provider.Tag} {operation : Operation}
      (read : record.tagError = none) (tagged : record.tagSet = some tags)
      (kept : Provider.MentionsKeep tags) :
      Protects capture account region (.bucket record) operation
  | keptResourceGroup {record : Provider.ResourceGroup} {tags : Dictionary String} {value : String}
      {operation : Operation} (tagged : record.tags = some tags)
      (kept : tags.get? Rules.keepKey = some value) :
      Protects capture account region (.resourceGroup record) operation

end Capture

namespace Capture

variable {capture : Capture} {account : Account} {region : String}

private theorem identity_snapshot {listed : Listed} {id : String} {tags : List Provider.Tag}
    (account : Account) (region : String) (identity : listed.identity? = some (id, tags)) :
    (Snapshot.ofListed listed account region).id = id ∧
      (Snapshot.ofListed listed account region).tags = some (.ofListed tags) ∧
      (Snapshot.ofListed listed account region).kind.hasAgePolicy = true := by
  cases listed with
  | securityGroup | bucket | resourceGroup => simp [Listed.identity?] at identity
  | _ =>
    simp only [Listed.identity?, Option.map_eq_some_iff, Prod.mk.injEq] at identity
    obtain ⟨own, tagged, rfl, rfl⟩ := identity
    simp [Snapshot.ofListed, tagged, Snapshot.kind, Details.kind, Kind.hasAgePolicy]

private theorem keepTag_ofListed {listed : Listed} {id : String} {tags : List Provider.Tag}
    (account : Account) (region : String) (identity : listed.identity? = some (id, tags))
    (own : Provider.Tagged tags Rules.keepKey id) :
    Rules.keepTag (Snapshot.ofListed listed account region) = .matchesId := by
  obtain ⟨same, tagged, -⟩ := identity_snapshot account region identity
  exact Rules.keepTag_of_tag? ((own.tag?_eq tagged).trans (congrArg some same.symm))

/-- The tags of a protected resource ask for nothing that it is protected from. -/
theorem Protects.byTags_ne {listed : Listed} {operation : Operation}
    (protects : capture.Protects account region listed operation)
    (holds : capture.Holds account region listed) (mutating : operation.isMutating = true) :
    (Rules.byTags (Snapshot.ofListed listed account region)).1 ≠ operation := by
  intro asked
  subst asked
  cases protects with
  | kept identity own removes =>
    obtain ⟨-, -, aged⟩ := identity_snapshot account region identity
    exact Rules.byTags_not_removes (keepTag_ofListed account region identity own) aged removes
  | @running record tags state _ tagged own kept =>
    have identity : (Listed.vmInstance record).identity? = some (record.instanceId, tags) := by
      simp [Listed.identity?, tagged]
    obtain ⟨-, same, -⟩ := identity_snapshot account region identity
    have guarded := Rules.byIdentity_of_matchesId (keepTag_ofListed account region identity own)
    have stateKept := kept.tag?_eq same
    simp only [Rules.byTags, Snapshot.ofListed] at mutating guarded stateKept
    simp [guarded, Snapshot.hasTagKey, stateKept, Rules.keptOrShutdown,
      Operation.isMutating] at mutating
  | @serving record tags state _ tagged own kept filled =>
    have identity : (Listed.dbInstance record).identity? = some (record.identifier, tags) := by
      simp [Listed.identity?, tagged]
    obtain ⟨-, same, -⟩ := identity_snapshot account region identity
    have guarded := Rules.byIdentity_of_matchesId (keepTag_ofListed account region identity own)
    have stateKept := kept.tag?_eq same
    simp only [Rules.byTags, Snapshot.ofListed] at mutating guarded stateKept
    simp [guarded, stateKept, filled, Rules.keptOrShutdown, Operation.isMutating] at mutating
  | unavailable state =>
    simp [Rules.byTags, Snapshot.ofListed, state, Operation.isMutating] at mutating
  | automatic type =>
    simp [Rules.byTags, Snapshot.ofListed, type, Operation.isMutating] at mutating
  | @keptGroup record attachedInstances tags value _ tagged kept =>
    have same : (Snapshot.ofListed (.securityGroup record attachedInstances) account region).tags =
        some (.ofListed tags) := by
      simp [Snapshot.ofListed, tagged]
    obtain ⟨-, unkept, -⟩ := (Rules.isMutating_byTags_securityGroup rfl).mp mutating
    simp [Snapshot.hasTagKey, kept.tag?_eq same] at unkept
  | defaultGroup name =>
    obtain ⟨-, -, other⟩ := (Rules.isMutating_byTags_securityGroup rfl).mp mutating
    exact other name
  | usedGroup used =>
    -- The group was listed together with the instances that refer to it.
    obtain ⟨content, resources, known, captured, refers⟩ := used
    obtain ⟨_, same, resources', captured', -, rfl⟩ := holds
    cases known.symm.trans same
    cases captured.symm.trans captured'
    obtain ⟨unused, -, -⟩ := (Rules.isMutating_byTags_securityGroup rfl).mp mutating
    exact RegionCapture.attachedInstances_ne_nil refers unused
  | unreadableBucket failed other =>
    simp [Rules.byTags, Snapshot.ofListed, Provider.Bucket.tags, failed, other,
      Operation.isMutating] at mutating
  | emptyBucket empty =>
    simp only [Rules.byTags, Snapshot.ofListed, empty, if_true] at mutating
    split at mutating <;> simp [Operation.isMutating] at mutating
  | keptBucket read tagged kept =>
    simp only [Rules.byTags, Snapshot.ofListed, Provider.Bucket.tags, read, tagged,
      kept.mentionKeep, if_true] at mutating
    split at mutating <;> simp [Operation.isMutating] at mutating
  | keptResourceGroup tagged kept =>
    simp [Rules.byTags, Snapshot.ofListed, tagged, Snapshot.hasTagKey, Snapshot.tag?, kept,
      Operation.isMutating] at mutating

end Capture

namespace Pool

/-- Whatever a run over a capture asks an executor to do is asked for a record of the capture, and no
record that it may be asked for is protected from it. -/
theorem Reached.execution_unprotected {capture : Capture} {request : Request} {pool : Pool}
    (reached : Reached (.listing capture.lister) request pool) {unit : WorkUnit} {event : Event}
    (member : (unit, event) ∈ pool.events) {operation : Operation} {snapshot : Snapshot}
    (asked : event.call = .execute operation snapshot) :
    (∃ listed, capture.Holds snapshot.account snapshot.region listed ∧
        Snapshot.ofListed listed snapshot.account snapshot.region = snapshot) ∧
      ∀ listed, capture.Holds snapshot.account snapshot.region listed →
        Snapshot.ofListed listed snapshot.account snapshot.region = snapshot →
        ¬ capture.Protects snapshot.account snapshot.region listed operation := by
  obtain ⟨-, dialogue, allowed, caused⟩ :=
    reached.caused (Behaviour.listing_responds _) member asked
  cases caused with
  | @intro kind policy listed one wet planned ruled answered present mutating =>
  have served : capture.lister unit.account unit.region kind = .ok listed :=
    (allowed _ answered).symm
  have holds := ((Capture.mem_lister_iff served).mp present).1
  have placed : (unit.snapshotOf one).account = unit.account ∧
      (unit.snapshotOf one).region = unit.region := by
    cases one <;> exact ⟨rfl, rfl⟩
  rw [placed.1, placed.2]
  refine ⟨⟨one, holds, rfl⟩, ?_⟩
  intro other held same protects
  have unasked := protects.byTags_ne held mutating
  rw [same] at unasked
  exact unasked (Rules.decide_operation_of_isMutating mutating).symm

/-- A run that terminates an untagged instance. -/
theorem execution_unprotected_machine :
    let capture := Capture.ofMachine .untagged
    let snapshot := Snapshot.ofListed (.vmInstance .untagged) .main "us-east-1"
    ∃ pool, Reached (.listing capture.lister) .forMachines pool ∧
      (∃ entry ∈ pool.events, entry.2.call = .execute .terminate snapshot) ∧
      (∃ listed, capture.Holds .main "us-east-1" listed ∧
        Snapshot.ofListed listed .main "us-east-1" = snapshot) ∧
      ∀ listed, capture.Holds .main "us-east-1" listed →
        Snapshot.ofListed listed .main "us-east-1" = snapshot →
        ¬ capture.Protects .main "us-east-1" listed .terminate := by
  intro capture snapshot
  let answer := capture.lister.answering (.ok ⟨0⟩)
  obtain ⟨pool, played, asked⟩ : ∃ pool,
      (start .forMachines).play .forMachines (Move.alone answer 2) = some pool ∧
        ∃ entry ∈ pool.events, entry.2.call = .execute .terminate snapshot := by
    refine ⟨_, rfl, ?_⟩
    exact ⟨_, List.mem_cons_of_mem _ List.mem_cons_self, by decide⟩
  have possible := capture.lister.answering_possible (.ok ⟨0⟩)
  have reached := reached_of_play .start (Move.alone_fits possible 2) played
  obtain ⟨entry, member, called⟩ := asked
  exact ⟨pool, reached, ⟨entry, member, called⟩, reached.execution_unprotected member called⟩

end Pool
end Retention
