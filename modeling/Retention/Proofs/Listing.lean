import Mathlib.Data.List.Basic
import Retention.Proofs.Capture
import Retention.Proofs.Dictionary

/-!
What the lister of a capture answers. The listings of the kinds take the records of a region apart, so that
each comes up once and under its kind; only an account that the capture lacks cannot be listed. A security
group comes with the instances of its region that refer to it, wherever they do so.
-/
namespace Retention

/-- The machine refers to the group, at some place of its list. -/
def Provider.VmInstance.RefersTo (machine : Provider.VmInstance) (groupId : String) : Prop :=
  ∃ (place : Nat) (reference : Provider.GroupReference),
    machine.securityGroups[place]? = some reference ∧ reference.groupId = groupId

/-- The ids of the machines that refer to a group: one for each of these, in their order. -/
inductive Provider.Users (groupId : String) : List Provider.VmInstance → List String → Prop
  | nil : Users groupId [] []
  | counted {machine machines ids} (refers : machine.RefersTo groupId)
      (others : Users groupId machines ids) :
      Users groupId (machine :: machines) (machine.instanceId :: ids)
  | passed {machine machines ids} (apart : ¬ machine.RefersTo groupId)
      (others : Users groupId machines ids) : Users groupId (machine :: machines) ids

/-- The record as it is captured: without the instances that a listing adds to a security group. -/
def Listed.captured : Listed → Listed
  | .securityGroup record _ => .securityGroup record []
  | listed => listed

def Kind.regional : List Kind := all.filter (·.scope = .regional)

namespace RegionCapture

/-- All that is captured of a region, in the order of the capture. -/
def records (resources : RegionCapture) : List Listed :=
  resources.reservations.flatMap (fun reservation => reservation.instances.map .vmInstance) ++
    resources.volumes.map .volume ++ resources.images.map .image ++
    resources.snapshots.map .snapshot ++ resources.securityGroups.map (.securityGroup · []) ++
    resources.dbInstances.map .dbInstance ++ resources.dbSnapshots.map .dbSnapshot

end RegionCapture

namespace AccountCapture

/-- The answers hold what is captured of the account, and nothing else. -/
structure AnsweredBy (content : AccountCapture) (answer : String → Kind → List Listed) : Prop where
  regional : ∀ region resources, content.regions.get? region = some resources →
    ∀ kind, kind.scope = .regional →
      (answer region kind).map Listed.captured = resources.records.filter (·.kind = kind)
  once : (content.regions.keys.flatMap fun region => Kind.regional.flatMap fun kind =>
      (answer region kind).map fun listed => (region, listed.captured)) =
    content.regions.entries.flatMap fun entry => entry.2.records.map fun record => (entry.1, record)
  asked : ∀ region kind, ∀ listed ∈ answer region kind, listed.kind = kind
  buckets : ∀ region, answer region .bucket = content.buckets.map .bucket
  resourceGroups : ∀ region, answer region .resourceGroup = content.resourceGroups.map .resourceGroup
  elsewhere : ∀ region, content.regions.get? region = none →
    ∀ kind, kind.scope = .regional → answer region kind = []
  users : ∀ region resources, content.regions.get? region = some resources →
    ∀ group attached, .securityGroup group attached ∈ answer region .securityGroup →
      ∀ ids, Provider.Users group.groupId (resources.reservations.flatMap (·.instances)) ids ↔
        ids = attached

end AccountCapture

namespace Provider

variable {groupId : String} {machine : VmInstance}

theorem refersTo_iff :
    machine.RefersTo groupId ↔ machine.securityGroups.any (·.groupId == groupId) = true := by
  simp only [VmInstance.RefersTo, List.any_eq_true, beq_iff_eq, List.mem_iff_getElem?]
  constructor
  · rintro ⟨place, reference, found, same⟩
    exact ⟨reference, ⟨place, found⟩, same⟩
  · rintro ⟨reference, ⟨place, found⟩, same⟩
    exact ⟨place, reference, found, same⟩

theorem users_iff {machines : List VmInstance} {ids : List String} : Users groupId machines ids ↔
    ids = (machines.filter fun machine =>
      machine.securityGroups.any (·.groupId == groupId)).map (·.instanceId) := by
  induction machines generalizing ids with
  | nil =>
    constructor
    · rintro ⟨⟩
      rfl
    · rintro rfl
      exact .nil
  | cons machine machines ih =>
    by_cases refers : machine.RefersTo groupId
    · have taken := refersTo_iff.mp refers
      rw [List.filter_cons, if_pos taken, List.map_cons]
      constructor
      · intro users
        cases users with
        | counted _ others => rw [← ih.mp others]
        | passed apart _ => exact absurd refers apart
      · rintro rfl
        exact .counted refers (ih.mpr rfl)
    · have left := mt refersTo_iff.mpr refers
      rw [List.filter_cons, if_neg left]
      constructor
      · intro users
        cases users with
        | counted also _ => exact absurd also refers
        | passed _ others => exact ih.mp others
      · rintro rfl
        exact .passed refers (ih.mpr rfl)

end Provider

namespace RegionCapture

variable {resources : RegionCapture}

theorem users_attachedInstances {groupId : String} {ids : List String} :
    Provider.Users groupId (resources.reservations.flatMap (·.instances)) ids ↔
      ids = resources.attachedInstances groupId := Provider.users_iff

theorem attached_of_mem_list {group : Provider.SecurityGroup} {attached : List String}
    (listed : .securityGroup group attached ∈ resources.list .securityGroup) :
    attached = resources.attachedInstances group.groupId :=
  (mem_list_iff.mp listed).1.2

theorem records_eq (resources : RegionCapture) : resources.records =
    resources.instances.map .vmInstance ++ resources.volumes.map .volume ++
      resources.images.map .image ++ resources.snapshots.map .snapshot ++
      resources.securityGroups.map (.securityGroup · []) ++ resources.dbInstances.map .dbInstance ++
      resources.dbSnapshots.map .dbSnapshot := by
  rw [records, instances, List.map_flatMap]

theorem captured_list (resources : RegionCapture) (kind : Kind) :
    (resources.list kind).map Listed.captured = resources.records.filter (·.kind = kind) := by
  simp only [records_eq, List.filter_append, List.filter_map, Function.comp_def, Listed.kind]
  cases kind <;> simp [list, Listed.captured, Function.comp_def]

theorem captured_regional (resources : RegionCapture) :
    (Kind.regional.flatMap fun kind => (resources.list kind).map Listed.captured) =
      resources.records := by
  have kinds : Kind.regional = [.vmInstance, .volume, .image, .snapshot, .securityGroup, .dbInstance,
    .dbSnapshot] := by decide
  simp [kinds, list, records_eq, Function.comp_def, Listed.captured]

end RegionCapture

/-- The answers of a capture, for an account that it has. -/
def AccountCapture.answer (content : AccountCapture) (region : String) : Kind → List Listed
  | .bucket => content.buckets.map .bucket
  | .resourceGroup => content.resourceGroups.map .resourceGroup
  | kind => ((content.regions.get? region).map (·.list kind)).getD []

theorem AccountCapture.answer_regional {content : AccountCapture} {kind : Kind}
    (scope : kind.scope = .regional) (region : String) :
    content.answer region kind = ((content.regions.get? region).map (·.list kind)).getD [] := by
  cases kind <;> first | rfl | cases scope

theorem AccountCapture.kind_of_mem_answer {content : AccountCapture} {region : String} {kind : Kind}
    {listed : Listed} (member : listed ∈ content.answer region kind) : listed.kind = kind := by
  have regional (scope : kind.scope = .regional) : listed.kind = kind := by
    rw [answer_regional scope] at member
    cases captured : content.regions.get? region with
    | none => simp [captured] at member
    | some resources =>
      rw [captured] at member
      exact (RegionCapture.mem_list_iff.mp member).2
  cases kind with
  | bucket | resourceGroup =>
    obtain ⟨record, -, rfl⟩ := List.mem_map.mp member
    rfl
  | _ => exact regional rfl

theorem AccountCapture.answeredBy_answer (content : AccountCapture) :
    content.AnsweredBy content.answer := by
  constructor
  case regional =>
    intro region resources captured kind scope
    rw [answer_regional scope, captured]
    exact resources.captured_list kind
  case once =>
    rw [Dictionary.keys, List.flatMap_map]
    refine List.flatMap_congr fun entry member => ?_
    have captured := Dictionary.get?_of_mem member
    rw [← entry.2.captured_regional, List.map_flatMap]
    refine List.flatMap_congr fun kind chosen => ?_
    have scope : kind.scope = .regional := of_decide_eq_true (List.mem_filter.mp chosen).2
    rw [answer_regional scope, captured]
    simp
  case asked => exact fun _ _ _ => kind_of_mem_answer
  case buckets => exact fun _ => rfl
  case resourceGroups => exact fun _ => rfl
  case elsewhere =>
    intro region absent kind scope
    rw [answer_regional scope, absent]
    rfl
  case users =>
    intro region resources captured group attached listed ids
    rw [answer_regional rfl, captured] at listed
    rw [RegionCapture.attached_of_mem_list listed]
    exact RegionCapture.users_attachedInstances

namespace Capture

variable {capture : Capture} {account : Account}

theorem lister_eq_answer {content : AccountCapture} (known : capture.account? account = some content)
    (region : String) (kind : Kind) :
    capture.lister account region kind = .ok (content.answer region kind) := by
  unfold lister
  rw [known]
  cases kind <;> rfl

theorem lister_eq_error_iff {region : String} {kind : Kind} {failure : ListingError} :
    capture.lister account region kind = .error failure ↔
      capture.account? account = none ∧ failure = .accountMissing account := by
  cases known : capture.account? account with
  | none => simp [lister, known, eq_comm]
  | some content => simp [lister_eq_answer known]

/-- An account of the capture is answered with what is captured of it, and no other account is answered. -/
theorem lister_exact (capture : Capture) (account : Account) :
    (∀ region kind failure, capture.lister account region kind = .error failure ↔
      capture.account? account = none ∧ failure = .accountMissing account) ∧
    ∀ content, capture.account? account = some content →
      ∃ answer : String → Kind → List Listed,
        (∀ region kind, capture.lister account region kind = .ok (answer region kind)) ∧
        content.AnsweredBy answer := by
  refine ⟨fun _ _ _ => lister_eq_error_iff, fun content known => ?_⟩
  exact ⟨content.answer, lister_eq_answer known, content.answeredBy_answer⟩

/-- A group that is referred to behind another one, in another reservation. -/
example :
    let machine (id : String) (groups : List String) : Provider.VmInstance :=
      ⟨id, "t3.micro", none, "us-east-1a", "running", [], groups.map (⟨·, "group"⟩), none⟩
    let resources : RegionCapture :=
      { reservations := [⟨[machine "i-1" ["web"], machine "i-2" []]⟩, ⟨[machine "i-3" ["db", "web"]]⟩]
        volumes := [], images := [], snapshots := [], dbInstances := [], dbSnapshots := []
        securityGroups := [⟨"web", "web", none, none⟩, ⟨"idle", "idle", none, none⟩] }
    resources.list .securityGroup =
      [.securityGroup ⟨"web", "web", none, none⟩ ["i-1", "i-3"],
        .securityGroup ⟨"idle", "idle", none, none⟩ []] := by
  decide

end Capture
end Retention
