import Mathlib.Data.List.Infix
import Retention.Proofs.Dictionary
import Retention.Provider.Normal
import Retention.Rules

/-!
What the tags of a listed resource say: under every key the last entry is in force.
-/
namespace Retention
namespace Text

theorem occursIn_iff {part text : List Char} : occursIn part text = true ↔ part <:+: text := by
  induction text with
  | nil => simp [occursIn]
  | cons c rest ih =>
    rw [occursIn, Bool.or_eq_true, List.isPrefixOf_iff_prefix, ih, List.infix_cons_iff]

theorem contains_iff {text part : String} :
    contains text part = true ↔ part.toList <:+: text.toList := occursIn_iff

end Text

namespace Provider

/-- The value in force under a key, where a tag list may repeat a key: that of the last entry. -/
def Tagged (tags : List Tag) (key value : String) : Prop :=
  ∃ before after, tags = before ++ ⟨key, value⟩ :: after ∧ ∀ tag ∈ after, tag.key ≠ key

theorem tagged_concat_iff {tags : List Tag} {tag : Tag} {key value : String} :
    Tagged (tags ++ [tag]) key value ↔
      if key = tag.key then value = tag.value else Tagged tags key value := by
  constructor
  · intro tagged
    obtain ⟨before, after, split, last⟩ := tagged
    rcases List.eq_nil_or_concat after with rfl | ⟨middle, final, rfl⟩
    · obtain ⟨-, same⟩ := List.append_inj' split rfl
      cases same
      simp
    · rw [List.concat_eq_append, ← List.cons_append, ← List.append_assoc] at split
      obtain ⟨rfl, same⟩ := List.append_inj' split rfl
      cases same
      have other : key ≠ tag.key := (last tag (by simp)).symm
      rw [if_neg other]
      exact ⟨before, middle, rfl, fun tag member => last tag (by simp [member])⟩
  · intro found
    split at found
    · rename_i same
      subst same found
      exact ⟨tags, [], rfl, by simp⟩
    · rename_i other
      obtain ⟨before, after, rfl, last⟩ := found
      refine ⟨before, after ++ [tag], by simp, ?_⟩
      intro later member
      rcases List.mem_append.mp member with old | new
      · exact last later old
      · rw [List.mem_singleton.mp new]
        exact Ne.symm other

theorem get?_ofListed_iff {tags : List Tag} {key value : String} :
    (Tags.ofListed tags).get? key = some value ↔ Tagged tags key value := by
  induction tags using List.reverseRecOn with
  | nil => simp [Tags.ofListed, Dictionary.ofList, Dictionary.empty, Dictionary.get?, Tagged]
  | append_singleton tags tag ih =>
    have last : Tags.ofListed (tags ++ [tag]) = (Tags.ofListed tags).insert tag.key tag.value := by
      simp [Tags.ofListed, Dictionary.ofList_concat]
    rw [last, Dictionary.get?_insert, tagged_concat_iff, ← ih]
    split
    · exact ⟨fun same => (Option.some.inj same).symm, fun same => congrArg some same.symm⟩
    · rfl

theorem Tagged.tag?_eq {tags : List Tag} {key value : String} {snapshot : Snapshot}
    (tagged : Tagged tags key value) (same : snapshot.tags = some (.ofListed tags)) :
    snapshot.tag? key = some value := by
  rw [Snapshot.tag?, same]
  exact get?_ofListed_iff.mpr tagged

/-- Some tag in force speaks of keeping, in its key or in its value. -/
def MentionsKeep (tags : List Tag) : Prop :=
  ∃ key value, Tagged tags key value ∧
    (Rules.keepKey.toList <:+: key.toList ∨ Rules.keepKey.toList <:+: value.toList)

theorem MentionsKeep.mentionKeep {tags : List Tag} (mentions : MentionsKeep tags) :
    Rules.mentionKeep (some (Tags.ofListed tags)) = true := by
  obtain ⟨key, value, tagged, inside⟩ := mentions
  have member := Dictionary.mem_of_get? (get?_ofListed_iff.mpr tagged)
  refine List.any_eq_true.mpr ⟨(key, value), member, ?_⟩
  simpa [Text.contains_iff] using inside

end Provider
end Retention
