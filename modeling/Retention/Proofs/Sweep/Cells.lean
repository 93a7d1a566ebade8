import Mathlib.Data.List.Dedup
import Mathlib.Data.List.ProdSigma
import Retention.Proofs.Sweep.Coverage

/-!
The cells of a plan. Each account, region and kind that is asked for is a cell, with the repeats among the
accounts and the regions, and the global kinds have one for each account. The planned units share out the
cells among them, one kind to a unit, and to a unit of instances the volumes as well.
-/
namespace Retention

/-- The kinds of a scope among the given ones, each of them once. -/
def Kind.within (kinds : List Kind) (scope : Scope) : List Kind := kinds.dedup.filter (·.scope = scope)

namespace WorkUnit

variable {unit : WorkUnit} {accounts : List Account} {regions : List String} {kinds others : List Kind}

/-- The units cover the cells: none is left out, none is taken twice, and no unit is without a cell. -/
structure Covers (accounts : List Account) (regions : List String) (kinds : List Kind)
    (units : List WorkUnit) : Prop where
  cells : (units.flatMap sites).Perm
    (accounts ×ˢ regions ×ˢ Kind.within kinds .regional ++
      accounts ×ˢ [globalRegion] ×ˢ Kind.within kinds .global)
  filled : ∀ unit ∈ units, unit.kinds ≠ []
  joint : ∀ unit ∈ units, 1 < unit.kinds.length → unit.kinds = [.vmInstance, .volume]
  together : ∀ account ∈ accounts, ∀ region ∈ regions,
    (⟨account, region, [.vmInstance, .volume]⟩ ∈ units ↔ .vmInstance ∈ kinds ∧ .volume ∈ kinds)

theorem within_perm (kinds : List Kind) (scope : Scope) :
    (Kind.all.filter fun kind => kind.scope = scope && kinds.contains kind).Perm
      (Kind.within kinds scope) := by
  have every : Kind.all.Nodup := by decide
  have complete (kind : Kind) : kind ∈ Kind.all := by cases kind <;> decide
  refine (List.perm_ext_iff_of_nodup (every.filter _) (kinds.nodup_dedup.filter _)).mpr fun kind => ?_
  simp [complete, and_comm]

theorem product_product_eq (accounts : List Account) (regions : List String) (kinds : List Kind) :
    accounts ×ˢ regions ×ˢ kinds = accounts.flatMap fun account =>
      regions.flatMap fun region => kinds.map fun kind => (account, region, kind) := by
  refine List.flatMap_congr fun account _ => ?_
  show (regions.flatMap fun region => kinds.map (Prod.mk region)).map (Prod.mk account) = _
  simp only [List.map_flatMap, List.map_map]
  rfl

theorem sites_plan_perm (accounts : List Account) (regions : List String) (kinds : List Kind) :
    ((plan accounts regions kinds).flatMap sites).Perm
      (accounts ×ˢ regions ×ˢ Kind.within kinds .regional ++
        accounts ×ˢ [globalRegion] ×ˢ Kind.within kinds .global) := by
  have placed (account : Account) (region : String) (scope : Scope) :
      ((Kind.all.filter fun kind => kind.scope = scope && kinds.contains kind).map
        fun kind => (account, region, kind)).Perm
      ((Kind.within kinds scope).map fun kind => (account, region, kind)) :=
    (within_perm kinds scope).map _
  rw [sites_plan, product_product_eq, product_product_eq]
  refine (List.flatMap_append_perm _ _ _).symm.trans (List.Perm.append ?_ ?_)
  · exact List.Perm.flatMap_left _ fun account _ =>
      List.Perm.flatMap_left _ fun region _ => placed account region .regional
  · refine List.Perm.flatMap_left _ fun account _ => ?_
    rw [List.flatMap_singleton]
    exact placed account globalRegion .global

theorem exists_kind_of_mem_plan (planned : unit ∈ plan accounts regions kinds) :
    ∃ kind, kind ∈ unit.kinds := by
  obtain ⟨account, -, owned⟩ := List.mem_flatMap.mp planned
  rcases List.mem_append.mp owned with regional | global
  · obtain ⟨region, -, placed⟩ := List.mem_flatMap.mp regional
    obtain ⟨-, -, kind, turn, -⟩ := mem_ofRegion placed
    exact ⟨kind, turn⟩
  · obtain ⟨kind, -, rfl⟩ := List.mem_map.mp global
    exact ⟨kind, List.mem_singleton_self _⟩

theorem kinds_of_joint (planned : unit ∈ plan accounts regions kinds) (joint : 1 < unit.kinds.length) :
    unit.kinds = fused := by
  obtain ⟨kind, turn⟩ := exists_kind_of_mem_plan planned
  have shape := kinds_of_mem_plan planned turn
  rw [shape] at joint ⊢
  unfold companions at joint ⊢
  split
  · rename_i inside
    rw [if_pos inside] at joint
    exact List.filter_sublist.eq_of_length_le joint
  · rename_i outside
    rw [if_neg outside] at joint
    exact absurd joint (by simp)

theorem fused_mem_plan_iff {account : Account} {region : String} (visited : account ∈ accounts)
    (swept : region ∈ regions) : ⟨account, region, fused⟩ ∈ plan accounts regions kinds ↔
      .vmInstance ∈ kinds ∧ .volume ∈ kinds := by
  have both : fused.filter (kinds.contains ·) = fused ↔ .vmInstance ∈ kinds ∧ .volume ∈ kinds := by
    simp [List.filter_eq_self, fused]
  rw [← both]
  constructor
  · intro planned
    exact (kinds_of_fused planned List.mem_cons_self List.mem_cons_self).symm
  · intro whole
    have present : fused.filter (kinds.contains ·) ≠ [] := by
      rw [whole]
      exact List.cons_ne_nil _ _
    have planned := fused_mem_plan visited swept present
    rwa [whole] at planned

/-- Of the kinds a plan knows nothing but which they are. -/
theorem plan_congr (same : ∀ kind, kind ∈ others ↔ kind ∈ kinds) :
    plan accounts regions others = plan accounts regions kinds := by
  have chosen (kind : Kind) : others.contains kind = kinds.contains kind := by
    rw [Bool.eq_iff_iff, List.contains_iff_mem, List.contains_iff_mem, same]
  have placed (account : Account) : ofRegion account others = ofRegion account kinds := by
    funext region
    simp only [ofRegion, chosen]
  have owned : ofAccount regions others = ofAccount regions kinds := by
    funext account
    simp only [ofAccount, chosen, placed]
  rw [plan, plan, owned]

/-- A plan covers the cells that are asked for exactly, and it is the same for kinds in another order or with
repeats. -/
theorem plan_covers (accounts : List Account) (regions : List String) (kinds : List Kind) :
    Covers accounts regions kinds (plan accounts regions kinds) ∧
    ∀ others, (∀ kind, kind ∈ others ↔ kind ∈ kinds) →
      plan accounts regions others = plan accounts regions kinds := by
  refine ⟨?_, fun others same => plan_congr same⟩
  constructor
  case cells => exact sites_plan_perm accounts regions kinds
  case filled =>
    intro unit planned none
    obtain ⟨kind, turn⟩ := exists_kind_of_mem_plan planned
    rw [none] at turn
    cases turn
  case joint => exact fun unit planned joint => kinds_of_joint planned joint
  case together => exact fun account visited region swept => fused_mem_plan_iff visited swept

example : (plan [.main] ["us-east-1", "eu-west-1"] [.volume, .vmInstance, .bucket, .volume]).map (·.kinds) =
    [[.vmInstance, .volume], [.vmInstance, .volume], [.bucket]] := by
  decide

end WorkUnit
end Retention
