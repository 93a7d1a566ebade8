import Retention.Provider.Capture

/-!
What a capture holds, read off its records, and that its lister serves just that.
-/
namespace Retention
namespace RegionCapture

def Refers (resources : RegionCapture) (groupId : String) : Prop :=
  ∃ reservation ∈ resources.reservations, ∃ machine ∈ reservation.instances,
    ∃ reference ∈ machine.securityGroups, reference.groupId = groupId

def Holds (resources : RegionCapture) : Listed → Prop
  | .vmInstance record => ∃ reservation ∈ resources.reservations, record ∈ reservation.instances
  | .volume record => record ∈ resources.volumes
  | .image record => record ∈ resources.images
  | .snapshot record => record ∈ resources.snapshots
  | .securityGroup record attachedInstances =>
    record ∈ resources.securityGroups ∧
      attachedInstances = resources.attachedInstances record.groupId
  | .dbInstance record => record ∈ resources.dbInstances
  | .dbSnapshot record => record ∈ resources.dbSnapshots
  | .bucket _ | .resourceGroup _ => False

variable {resources : RegionCapture}

theorem mem_instances_iff {machine : Provider.VmInstance} :
    machine ∈ resources.instances ↔
      ∃ reservation ∈ resources.reservations, machine ∈ reservation.instances := by
  simp [instances]

theorem attachedInstances_ne_nil {groupId : String} (used : resources.Refers groupId) :
    resources.attachedInstances groupId ≠ [] := by
  obtain ⟨reservation, reserved, machine, running, reference, present, same⟩ := used
  have referring : machine.securityGroups.any (·.groupId == groupId) = true :=
    List.any_eq_true.mpr ⟨reference, present, beq_iff_eq.mpr same⟩
  have listed := mem_instances_iff.mpr ⟨reservation, reserved, running⟩
  have found : machine.instanceId ∈ resources.attachedInstances groupId :=
    List.mem_map_of_mem (List.mem_filter.mpr ⟨listed, referring⟩)
  exact List.ne_nil_of_mem found

theorem mem_list_iff {kind : Kind} {listed : Listed} :
    listed ∈ resources.list kind ↔ resources.Holds listed ∧ listed.kind = kind := by
  cases listed with
  | securityGroup record attachedInstances =>
    have found : (∃ group ∈ resources.securityGroups, group = record ∧
        resources.attachedInstances group.groupId = attachedInstances) ↔
        record ∈ resources.securityGroups ∧
          attachedInstances = resources.attachedInstances record.groupId := by
      constructor
      · intro listed
        obtain ⟨group, member, rfl, rfl⟩ := listed
        exact ⟨member, rfl⟩
      · intro held
        exact ⟨record, held.1, rfl, held.2.symm⟩
    cases kind <;> simp [list, Holds, Listed.kind, found]
  | _ => cases kind <;> simp [list, Holds, Listed.kind, mem_instances_iff]

end RegionCapture

namespace AccountCapture

/-- Records of the account itself belong to every region. -/
def Holds (content : AccountCapture) (region : String) : Listed → Prop
  | .bucket record => record ∈ content.buckets
  | .resourceGroup record => record ∈ content.resourceGroups
  | listed => ∃ resources, content.regions.get? region = some resources ∧ resources.Holds listed

end AccountCapture

namespace Capture

variable {capture : Capture} {account : Account} {region : String}

/-- The records that the capture lists for the account and the region. -/
def Holds (capture : Capture) (account : Account) (region : String) (listed : Listed) : Prop :=
  ∃ content, capture.account? account = some content ∧ content.Holds region listed

/-- Some instance of the account and the region refers to the group. -/
def Refers (capture : Capture) (account : Account) (region groupId : String) : Prop :=
  ∃ content resources, capture.account? account = some content ∧
    content.regions.get? region = some resources ∧ resources.Refers groupId

/-- The lister serves the records of the capture, each under its kind. -/
theorem mem_lister_iff {kind : Kind} {resources : List Listed} {listed : Listed}
    (answered : capture.lister account region kind = .ok resources) :
    listed ∈ resources ↔ capture.Holds account region listed ∧ listed.kind = kind := by
  unfold lister at answered
  cases known : capture.account? account with
  | none => simp [known] at answered
  | some content =>
    have holds : capture.Holds account region listed ↔ content.Holds region listed := by
      simp [Holds, known]
    rw [holds]
    cases kind with
    | bucket | resourceGroup =>
      simp only [known, Except.ok.injEq] at answered
      subst answered
      cases listed <;> simp [AccountCapture.Holds, Listed.kind]
    | _ =>
      simp only [known, Except.ok.injEq] at answered
      subst answered
      cases captured : content.regions.get? region <;> cases listed <;>
        simp [AccountCapture.Holds, Listed.kind, captured, RegionCapture.mem_list_iff]

end Capture
end Retention
