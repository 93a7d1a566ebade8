import Mathlib.Data.List.Count
import Mathlib.Data.List.Induction
import Mathlib.Data.List.Nodup
import Retention.Proofs.Text
import Retention.Settings.Basic

/-!
The regions that configured names come to. Names are free texts: each that is a known region is swept once,
in the order in which the regions come up first, and each other one that is not blank is set aside. A name
that is added later changes nothing about those before it.
-/
namespace Retention
namespace Region

/-- What comes of configured names: the regions to sweep, and the names that are set aside. -/
structure Resolved (configured swept aside : List String) : Prop where
  distinct : swept.Nodup
  sweeps : ∀ region, region ∈ swept ↔ region ∈ known ∧ ∃ name ∈ configured, Text.trim name = region
  order : swept.Pairwise fun first second =>
    (configured.map Text.trim).idxOf first < (configured.map Text.trim).idxOf second
  passes : aside.Sublist (configured.map Text.trim)
  counts : ∀ name, aside.count name =
    if name = "" ∨ name ∈ known then 0 else (configured.map Text.trim).count name
  either : ∀ name ∈ configured, Text.isBlankText name = false →
    (Text.trim name ∈ swept ↔ Text.trim name ∉ aside)

theorem empty_not_known : "" ∉ known := by decide

theorem isKnown_iff {region : String} : isKnown region = true ↔ region ∈ known := List.contains_iff_mem

/-! Names one after another. -/

variable {configured more : List String} {name region : String}

theorem named_append (configured more : List String) :
    named (configured ++ more) = named configured ++ named more := by
  simp [named]

theorem dropped_append (configured more : List String) :
    dropped (configured ++ more) = dropped configured ++ dropped more := by
  simp [dropped, named_append]

/-- One more name is swept where it is a known region that has not come up. -/
theorem valid_concat (configured : List String) (name : String) : valid (configured ++ [name]) =
    if Text.trim name ∈ known ∧ Text.trim name ∉ valid configured then
      valid configured ++ [Text.trim name]
    else valid configured := by
  by_cases asked : Text.trim name ∈ known
  · have filled : Text.trim name ≠ "" := fun empty => empty_not_known (empty ▸ asked)
    have last : (named [name]).filter isKnown = [Text.trim name] := by
      simp [named, filled, isKnown_iff.mpr asked]
    rw [valid, named_append, List.filter_append, last, List.foldl_append, ← valid]
    by_cases present : Text.trim name ∈ valid configured
    · simp [present]
    · simp [present, asked]
  · have none : (named [name]).filter isKnown = [] := by
      rw [List.filter_eq_nil_iff]
      intro other member
      obtain ⟨only, -⟩ := List.mem_filter.mp member
      rw [List.map_singleton, List.mem_singleton] at only
      rwa [only, isKnown_iff]
    rw [valid, named_append, List.filter_append, none, List.append_nil, ← valid,
      if_neg fun both => asked both.1]

theorem valid_prefix (configured more : List String) : valid configured <+: valid (configured ++ more) := by
  induction more using List.reverseRecOn with
  | nil => simp
  | append_singleton more name ih =>
    rw [← List.append_assoc, valid_concat]
    split
    · exact ih.trans (List.prefix_append _ _)
    · exact ih

theorem mem_valid_iff :
    region ∈ valid configured ↔ region ∈ known ∧ ∃ name ∈ configured, Text.trim name = region := by
  induction configured using List.reverseRecOn with
  | nil => simp [valid, named]
  | append_singleton configured name ih =>
    simp only [List.mem_append, List.mem_singleton, or_and_right, exists_or, exists_eq_left, and_or_left,
      ← ih, valid_concat]
    split
    · rename_i fresh
      rw [List.mem_append, List.mem_singleton]
      refine or_congr_right ⟨?_, fun asked => asked.2.symm⟩
      rintro rfl
      exact ⟨fresh.1, rfl⟩
    · rename_i stale
      constructor
      · exact .inl
      · rintro (old | ⟨asked, rfl⟩)
        · exact old
        · by_contra absent
          exact stale ⟨asked, absent⟩

theorem valid_nodup (configured : List String) : (valid configured).Nodup := by
  induction configured using List.reverseRecOn with
  | nil => exact List.nodup_nil
  | append_singleton configured name ih =>
    rw [valid_concat]
    split
    · rename_i fresh
      rw [← List.concat_eq_append]
      exact List.Nodup.concat fresh.2 ih
    · exact ih

theorem trim_mem (valid : region ∈ valid configured) : region ∈ configured.map Text.trim := by
  obtain ⟨-, name, member, rfl⟩ := mem_valid_iff.mp valid
  exact List.mem_map_of_mem member

/-- The regions stand in the order in which they come up first. -/
theorem valid_order (configured : List String) : (valid configured).Pairwise fun first second =>
    (configured.map Text.trim).idxOf first < (configured.map Text.trim).idxOf second := by
  induction configured using List.reverseRecOn with
  | nil => exact List.Pairwise.nil
  | append_singleton configured name ih =>
    have old : (valid configured).Pairwise fun first second =>
        ((configured ++ [name]).map Text.trim).idxOf first <
          ((configured ++ [name]).map Text.trim).idxOf second := by
      refine ih.imp_of_mem fun first second before => ?_
      rwa [List.map_append, List.idxOf_append_of_mem (trim_mem first),
        List.idxOf_append_of_mem (trim_mem second)]
    rw [valid_concat]
    split
    · rename_i fresh
      refine List.pairwise_append.mpr ⟨old, List.pairwise_singleton _ _, fun first member second last => ?_⟩
      rw [List.mem_singleton.mp last, List.map_append, List.idxOf_append_of_mem (trim_mem member)]
      -- The region is new, so none of the names before comes to it.
      have unheard : Text.trim name ∉ configured.map Text.trim := fun heard => by
        obtain ⟨earlier, stands, same⟩ := List.mem_map.mp heard
        exact fresh.2 (mem_valid_iff.mpr ⟨fresh.1, earlier, stands, same⟩)
      rw [List.idxOf_append_of_notMem unheard]
      exact Nat.lt_of_lt_of_le (List.idxOf_lt_length_of_mem (trim_mem member)) (Nat.le_add_right _ _)
    · exact old

/-! Names set aside. -/

theorem mem_dropped_iff : name ∈ dropped configured ↔
    name ∈ configured.map Text.trim ∧ name ≠ "" ∧ name ∉ known := by
  rw [dropped, named, List.mem_filter, List.mem_filter, and_assoc]
  simp [isKnown]

theorem count_dropped (configured : List String) (name : String) : (dropped configured).count name =
    if name = "" ∨ name ∈ known then 0 else (configured.map Text.trim).count name := by
  split
  · rename_i out
    refine List.count_eq_zero.mpr fun member => ?_
    obtain ⟨-, filled, unknown⟩ := mem_dropped_iff.mp member
    exact out.elim filled unknown
  · rename_i kept
    obtain ⟨filled, unknown⟩ := not_or.mp kept
    rw [dropped, List.count_filter (by simpa [isKnown] using unknown), named,
      List.count_filter (by simpa using filled)]

theorem resolved (configured : List String) :
    Resolved configured (valid configured) (dropped configured) where
  distinct := valid_nodup configured
  sweeps _ := mem_valid_iff
  order := valid_order configured
  passes := List.filter_sublist.trans List.filter_sublist
  counts := count_dropped configured
  either := by
    intro name member filled
    have heard : Text.trim name ∈ configured.map Text.trim := List.mem_map_of_mem member
    have some : Text.trim name ≠ "" := by
      rw [Ne, Text.trim_eq_empty_iff, filled]
      decide
    rw [mem_valid_iff, mem_dropped_iff]
    simp only [heard, some, ne_eq, not_false_eq_true, true_and, not_not, and_iff_left_iff_imp]
    exact fun _ => ⟨name, member, rfl⟩

/-! Regions that are names again. -/

theorem trim_of_mem_valid (member : region ∈ valid configured) : Text.trim region = region := by
  obtain ⟨-, name, -, rfl⟩ := mem_valid_iff.mp member
  exact Text.trim_trim name

theorem valid_of_sorted {regions : List String} (distinct : regions.Nodup)
    (each : ∀ region ∈ regions, region ∈ known ∧ Text.trim region = region) : valid regions = regions := by
  induction regions using List.reverseRecOn with
  | nil => rfl
  | append_singleton regions region ih =>
    obtain ⟨before, last⟩ := List.forall_mem_append.mp each
    obtain ⟨asked, plain⟩ := last region (List.mem_singleton_self region)
    obtain ⟨earlier, -, apart⟩ := List.nodup_append.mp distinct
    have fresh : region ∉ regions := fun member => apart region member region (List.mem_singleton_self _) rfl
    rw [valid_concat, ih earlier before, plain, if_pos ⟨asked, fresh⟩]

theorem valid_valid (configured : List String) : valid (valid configured) = valid configured :=
  valid_of_sorted (valid_nodup configured) fun _ member =>
    ⟨(mem_valid_iff.mp member).1, trim_of_mem_valid member⟩

theorem dropped_valid (configured : List String) : dropped (valid configured) = [] := by
  refine List.eq_nil_iff_forall_not_mem.mpr fun name member => ?_
  obtain ⟨heard, -, unknown⟩ := mem_dropped_iff.mp member
  obtain ⟨region, stands, rfl⟩ := List.mem_map.mp heard
  rw [trim_of_mem_valid stands] at unknown
  exact unknown (mem_valid_iff.mp stands).1

end Region

namespace Settings

variable {settings : Settings}

theorem resolveRegions_some (some : settings.allRegions = false) :
    settings.resolveRegions = (Region.valid settings.regions, Region.dropped settings.regions) := by
  simp [resolveRegions, some]

theorem resolveRegions_nodup : settings.resolveRegions.1.Nodup := by
  unfold resolveRegions
  split
  · decide
  · exact Region.valid_nodup _

theorem known_of_mem_resolveRegions {region : String} (swept : region ∈ settings.resolveRegions.1) :
    region ∈ Region.known := by
  unfold resolveRegions at swept
  split at swept
  · exact swept
  · exact (Region.mem_valid_iff.mp swept).1

/-- Either all known regions are swept, each of them once, or those that the configured names come to. Those
come to themselves again, and with more names they are a beginning of what these come to. -/
theorem resolveRegions_exact (settings : Settings) :
    (settings.allRegions = true → settings.resolveRegions = (Region.known, [])) ∧ Region.known.Nodup ∧
    (settings.allRegions = false →
      Region.Resolved settings.regions settings.resolveRegions.1 settings.resolveRegions.2 ∧
      { settings with regions := settings.resolveRegions.1 }.resolveRegions =
        (settings.resolveRegions.1, []) ∧
      ∀ more : List String,
        settings.resolveRegions.1 <+:
          { settings with regions := settings.regions ++ more }.resolveRegions.1 ∧
        settings.resolveRegions.2 <+:
          { settings with regions := settings.regions ++ more }.resolveRegions.2) := by
  refine ⟨fun every => by simp [resolveRegions, every], by decide, fun some => ?_⟩
  have longer (names : List String) : { settings with regions := names }.resolveRegions =
      (Region.valid names, Region.dropped names) := resolveRegions_some some
  rw [resolveRegions_some some]
  refine ⟨Region.resolved settings.regions, ?_, fun more => ⟨?_, ?_⟩⟩
  · rw [longer, Region.valid_valid, Region.dropped_valid]
  · rw [longer]
    exact Region.valid_prefix settings.regions more
  · rw [longer, Region.dropped_append]
    exact List.prefix_append _ _

/-- A region comes up behind a blank name, a name that is no region, and itself in other blanks. -/
example :
    let settings : Settings :=
      { regions := [" us-east-1", "", "mars-north-1", "us-east-1\t", "eu-west-1", "US-EAST-1"] }
    settings.resolveRegions = (["us-east-1", "eu-west-1"], ["mars-north-1", "US-EAST-1"]) := by
  decide +kernel

end Settings
end Retention
