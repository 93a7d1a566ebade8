import Mathlib.Data.List.Nodup
import Mathlib.Data.List.Perm.Basic
import Retention.Sweep.Run

/-!
The planned units. Account, region and one of its kinds determine a planned unit, so units that are not
the same have nothing in common. The plan follows the order of accounts and regions, and no other order.
-/
namespace Retention
namespace WorkUnit

variable {unit : WorkUnit} {accounts others : List Account} {regions places : List String}
  {kinds wanted : List Kind}

/-- The kinds that come with a kind in a planned unit. -/
def companions (kinds : List Kind) (kind : Kind) : List Kind :=
  if fused.contains kind then fused.filter (kinds.contains ·) else [kind]

theorem kinds_of_mem_plan (planned : unit ∈ plan accounts regions kinds) {kind : Kind}
    (turn : kind ∈ unit.kinds) : unit.kinds = companions kinds kind := by
  have alone {kind' : Kind} {account : Account} {region : String}
      (apart : fused.contains kind' = false) (same : ⟨account, region, [kind']⟩ = unit) :
      unit.kinds = companions kinds kind := by
    subst same
    rw [List.mem_singleton.mp turn, companions, apart]
    rfl
  obtain ⟨account, -, owned⟩ := List.mem_flatMap.mp planned
  rcases List.mem_append.mp owned with regional | global
  · obtain ⟨region, -, placed⟩ := List.mem_flatMap.mp regional
    rcases List.mem_append.mp placed with together | single
    · split at together
      · cases together
      · rw [List.mem_singleton.mp together] at turn ⊢
        have inside : fused.contains kind = true := by
          simpa using (List.mem_filter.mp turn).1
        rw [companions, inside]
        rfl
    · obtain ⟨kind', member, same⟩ := List.mem_map.mp single
      have chosen := (List.mem_filter.mp member).2
      simp only [Bool.and_eq_true, Bool.not_eq_true'] at chosen
      exact alone chosen.1.2 same
  · obtain ⟨kind', member, same⟩ := List.mem_map.mp global
    have chosen := (List.mem_filter.mp member).2
    simp only [Bool.and_eq_true, decide_eq_true_eq] at chosen
    refine alone ?_ same
    cases kind' <;> simp_all [Kind.scope, fused]

/-- Planned units of one account and region that share a kind are the same unit. -/
theorem eq_of_mem_plan {other : WorkUnit} (planned : unit ∈ plan accounts regions kinds)
    (planned' : other ∈ plan accounts regions kinds) (account : unit.account = other.account)
    (region : unit.region = other.region) {kind : Kind} (turn : kind ∈ unit.kinds)
    (turn' : kind ∈ other.kinds) : unit = other := by
  have same := (kinds_of_mem_plan planned turn).trans (kinds_of_mem_plan planned' turn').symm
  cases unit
  cases other
  simp_all

/-- Instances come first in a planned unit. -/
theorem vmInstance_notMem_tail (planned : unit ∈ plan accounts regions kinds) :
    Kind.vmInstance ∉ unit.kinds.tail := by
  cases listed : unit.kinds with
  | nil => simp
  | cons kind rest =>
    have shape := kinds_of_mem_plan planned (show kind ∈ unit.kinds by simp [listed])
    rw [← listed, shape, companions]
    split
    · simp only [fused, List.filter_cons, List.filter_nil]
      split <;> split <;> simp
    · simp

/-- Requests for the same accounts, regions and kinds, in whatever order, plan the same units. -/
theorem plan_perm (sameAccounts : accounts.Perm others) (sameRegions : regions.Perm places)
    (sameKinds : kinds.Perm wanted) :
    (plan accounts regions kinds).Perm (plan others places wanted) := by
  have chosen (kind : Kind) : kinds.contains kind = wanted.contains kind := by
    rw [Bool.eq_iff_iff, List.contains_iff_mem, List.contains_iff_mem]
    exact sameKinds.mem_iff
  have placed (account : Account) (region : String) :
      ofRegion account kinds region = ofRegion account wanted region := by
    simp only [ofRegion, chosen]
  have owned (account : Account) :
      (ofAccount regions kinds account).Perm (ofAccount places wanted account) := by
    have same : ofAccount places kinds account = ofAccount places wanted account := by
      simp only [ofAccount, chosen, funext (placed account)]
    rw [← same]
    exact (sameRegions.flatMap_right _).append_right _
  unfold plan
  exact (sameAccounts.flatMap_right _).trans (List.Perm.flatMap_left _ fun account _ => owned account)

/-- A unit of a region has its account and region, and kinds that are listed in every region. -/
theorem mem_ofRegion {account : Account} {region : String}
    (placed : unit ∈ ofRegion account kinds region) :
    unit.account = account ∧ unit.region = region ∧ ∃ kind ∈ unit.kinds, kind.scope = .regional := by
  rcases List.mem_append.mp placed with together | single
  · split at together
    · cases together
    · rename_i present
      rw [List.mem_singleton.mp together]
      obtain ⟨kind, turn⟩ := List.exists_mem_of_ne_nil _ (mt List.isEmpty_iff.mpr present)
      have known : kind ∈ fused := (List.mem_filter.mp turn).1
      refine ⟨rfl, rfl, kind, turn, ?_⟩
      rcases List.mem_pair.mp known with rfl | rfl <;> rfl
  · obtain ⟨kind, member, rfl⟩ := List.mem_map.mp single
    have chosen := (List.mem_filter.mp member).2
    simp only [Bool.and_eq_true, decide_eq_true_eq] at chosen
    exact ⟨rfl, rfl, kind, List.mem_singleton_self _, chosen.1.1⟩

theorem account_of_mem_ofAccount {account : Account}
    (owned : unit ∈ ofAccount regions kinds account) : unit.account = account := by
  rcases List.mem_append.mp owned with regional | global
  · obtain ⟨region, -, placed⟩ := List.mem_flatMap.mp regional
    exact (mem_ofRegion placed).1
  · obtain ⟨kind, -, rfl⟩ := List.mem_map.mp global
    rfl

theorem alone_injective (account : Account) (region : String) :
    Function.Injective fun kind : Kind => (⟨account, region, [kind]⟩ : WorkUnit) := by
  intro kind kind' same
  simpa using same

theorem ofRegion_nodup (account : Account) (region : String) :
    (ofRegion account kinds region).Nodup := by
  have every : Kind.all.Nodup := by decide
  refine List.nodup_append.mpr ⟨?_, ?_, ?_⟩
  · split
    · exact List.nodup_nil
    · exact List.nodup_singleton _
  · exact (every.filter _).map (alone_injective account region)
  · intro together member other single same
    subst same
    obtain ⟨kind, chosen, rfl⟩ := List.mem_map.mp single
    split at member
    · cases member
    · have shape : [kind] = fused.filter (kinds.contains ·) :=
        congrArg WorkUnit.kinds (List.mem_singleton.mp member)
      have turn : kind ∈ fused.filter (kinds.contains ·) := shape ▸ List.mem_singleton_self kind
      have known : kind ∈ fused := (List.mem_filter.mp turn).1
      simp [known] at chosen

theorem ofAccount_nodup (distinct : regions.Nodup) (account : Account) :
    (ofAccount regions kinds account).Nodup := by
  have every : Kind.all.Nodup := by decide
  refine List.nodup_append.mpr ⟨?_, (every.filter _).map (alone_injective account _), ?_⟩
  · refine List.nodup_flatMap.mpr ⟨fun region _ => ofRegion_nodup account region, ?_⟩
    refine distinct.imp fun apart unit inside inside' => apart ?_
    exact (mem_ofRegion inside).2.1.symm.trans (mem_ofRegion inside').2.1
  · intro unit regional other global same
    subst same
    obtain ⟨region, -, placed⟩ := List.mem_flatMap.mp regional
    obtain ⟨-, -, kind, turn, scope⟩ := mem_ofRegion placed
    obtain ⟨kind', member, rfl⟩ := List.mem_map.mp global
    rw [List.mem_singleton.mp turn] at scope
    simp [scope] at member

/-- Where no account and no region is named twice, no unit is planned twice. -/
theorem plan_nodup (distinct : accounts.Nodup) (distinct' : regions.Nodup) :
    (plan accounts regions kinds).Nodup := by
  refine List.nodup_flatMap.mpr ⟨fun account _ => ofAccount_nodup distinct' account, ?_⟩
  refine distinct.imp fun apart unit inside inside' => apart ?_
  exact (account_of_mem_ofAccount inside).symm.trans (account_of_mem_ofAccount inside')

/-- Instances and volumes of a region are planned together. -/
theorem fused_mem_plan {account : Account} {region : String} (visited : account ∈ accounts)
    (swept : region ∈ regions) (wanted : fused.filter (kinds.contains ·) ≠ []) :
    ⟨account, region, fused.filter (kinds.contains ·)⟩ ∈ plan accounts regions kinds := by
  have placed : ⟨account, region, fused.filter (kinds.contains ·)⟩ ∈
      ofRegion account kinds region := by
    refine List.mem_append_left _ ?_
    rw [if_neg (mt List.isEmpty_iff.mp wanted)]
    exact List.mem_singleton_self _
  refine List.mem_flatMap.mpr ⟨account, visited, List.mem_append_left _ ?_⟩
  exact List.mem_flatMap.mpr ⟨region, swept, placed⟩

theorem kinds_of_fused (planned : unit ∈ plan accounts regions kinds) {kind : Kind}
    (turn : kind ∈ unit.kinds) (known : kind ∈ fused) :
    unit.kinds = fused.filter (kinds.contains ·) := by
  rw [kinds_of_mem_plan planned turn, companions, if_pos (List.contains_iff_mem.mpr known)]

end WorkUnit
end Retention
