import Retention.Proofs.Expiry
import Retention.Proofs.Sheet

/-!
Tags as text. The marks between tags, keys and values have no letter in common with the word that keeps a
bucket, so their text holds the word where some key or some value does, and nowhere else.
-/
namespace Retention
namespace Text

section Marks

variable {part marks before after : List Char}

theorem eq_nil_of_prefix_mark {c : Char} (absent : c ∉ part) (opening : part <+: c :: after) :
    part = [] := by
  rcases List.prefix_cons_iff.mp opening with empty | ⟨rest, rfl, -⟩
  · exact empty
  · exact absurd List.mem_cons_self absent

/-- A word begins behind marks that it has no character of. -/
theorem infix_behind (filled : part ≠ []) (apart : ∀ c ∈ marks, c ∉ part) :
    part <:+: marks ++ after ↔ part <:+: after := by
  induction marks with
  | nil => rfl
  | cons c marks ih =>
    obtain ⟨absent, later⟩ := List.forall_mem_cons.mp apart
    rw [List.cons_append, List.infix_cons_iff, ih later]
    exact or_iff_right fun opening => filled (eq_nil_of_prefix_mark absent opening)

/-- Marks that a word has no character of keep it on one of their two sides. -/
theorem infix_around (filled : part ≠ []) (marked : marks ≠ []) (apart : ∀ c ∈ marks, c ∉ part) :
    part <:+: before ++ (marks ++ after) ↔ part <:+: before ∨ part <:+: after := by
  rw [List.infix_append_iff, infix_behind filled apart]
  constructor
  · rintro (left | right | ⟨front, back, rfl, ending, opening⟩)
    · exact .inl left
    · exact .inr right
    · obtain ⟨c, rest, rfl⟩ := List.exists_cons_of_ne_nil marked
      have absent : c ∉ back := fun inside =>
        apart c List.mem_cons_self (List.mem_append_right front inside)
      rw [eq_nil_of_prefix_mark absent opening, List.append_nil]
      exact .inl ending.isInfix
  · rintro (left | right)
    · exact .inl left
    · exact .inr (.inl right)

theorem infix_intercalate (filled : part ≠ []) (marked : marks ≠ []) (apart : ∀ c ∈ marks, c ∉ part)
    (pieces : List (List Char)) :
    part <:+: marks.intercalate pieces ↔ ∃ piece ∈ pieces, part <:+: piece := by
  induction pieces with
  | nil => simp [List.infix_nil, filled]
  | cons piece pieces ih =>
    cases pieces with
    | nil => simp
    | cons next pieces =>
      rw [List.intercalate_cons_cons, List.append_assoc, infix_around filled marked apart, ih]
      simp

end Marks

end Text

namespace Tags

variable {part : List Char}

theorem toList_text_some (tags : Tags) : (text (some tags)).toList =
    ['\x7b'] ++ ([',', ' '].intercalate
      (tags.entries.map fun tag => tag.1.toList ++ ([':', ' '] ++ tag.2.toList)) ++ (['\x7d'] ++ [])) := by
  simp [text, String.toList_intercalate, Function.comp_def]

/-- A word that has no character of the marks is in the text of the tags if it is in one of them. -/
theorem infix_text_some (filled : part ≠ [])
    (apart : ∀ c ∈ ['\x7b', ',', ' ', ':', '\x7d'], c ∉ part) (tags : Tags) :
    part <:+: (text (some tags)).toList ↔
      ∃ tag ∈ tags.entries, part <:+: tag.1.toList ∨ part <:+: tag.2.toList := by
  simp only [List.forall_mem_cons] at apart
  obtain ⟨opening, comma, space, colon, closing, -⟩ := apart
  have around (tag : String × String) :
      part <:+: tag.1.toList ++ ([':', ' '] ++ tag.2.toList) ↔
        part <:+: tag.1.toList ∨ part <:+: tag.2.toList :=
    Text.infix_around filled (by simp) (by simp [colon, space])
  rw [toList_text_some, Text.infix_behind filled (by simp [opening]),
    Text.infix_around filled (by simp) (by simp [closing]),
    Text.infix_intercalate filled (by simp) (by simp [comma, space])]
  simp only [List.mem_map, exists_exists_and_eq_and, around, List.infix_nil, filled, or_false]

theorem mentionKeep_iff_infix (tags : Option Tags) :
    Rules.mentionKeep tags = true ↔ "keep".toList <:+: (text tags).toList := by
  cases tags with
  | none =>
    have unsaid : ¬ "keep".toList <:+: (text none).toList := by decide
    exact iff_of_false Bool.false_ne_true unsaid
  | some tags =>
    have filled : "keep".toList ≠ [] := by simp
    rw [infix_text_some filled (by simp)]
    simp [Rules.mentionKeep, Text.contains_iff, Rules.keepKey]

end Tags

namespace Rules

/-- The tags of a bucket are searched as a report shows them: for the word in any key or value. So a bucket
with objects whose tags were found is left alone where the cell with its tags has the word, and deleted
otherwise. -/
theorem mentionKeep_shown :
    (∀ tags : Tags, mentionKeep (some tags) = true ↔
      "keep".toList <:+: (Tags.text (some tags)).toList) ∧
    (mentionKeep none = false ∧ ¬ "keep".toList <:+: (Tags.text none).toList) ∧
    ∀ (record : Record) (policy : Policy) (now : Instant) (count : UInt64),
      record.snapshot.details = .bucket count .found → count ≠ 0 →
      record.verdict.operation = (decide record.snapshot policy now).operation →
      ∃ cell, Sheet.cell? "Tags" record = some cell ∧
        (record.verdict.operation = .noOp ↔ "keep".toList <:+: cell.toList) ∧
        (record.verdict.operation = .delete ↔ ¬ "keep".toList <:+: cell.toList) := by
  refine ⟨fun tags => Tags.mentionKeep_iff_infix (some tags), ⟨rfl, by decide⟩, ?_⟩
  intro record policy now count bucket filled judged
  have headed : "Tags" ∈ Sheet.headings record.kind := by
    rw [Record.kind, Snapshot.kind, bucket, Details.kind]
    decide
  refine ⟨_, Sheet.cell?_tags headed, ?_⟩
  rw [judged, decide_operation_bucket bucket, if_neg filled, ← Tags.mentionKeep_iff_infix]
  cases mentionKeep record.snapshot.tags with
  | false => simp
  | true => simp

end Rules

/-- The record of a bucket between whose key and value the word falls apart. -/
def Record.ofParted : Record :=
  let snapshot : Snapshot :=
    { id := "archive", account := .main, region := "global", createdAt := none
      tags := some (.ofList [("ke", "ep")]), details := .bucket 3 .found }
  ⟨snapshot, Rules.decide snapshot .tagOnly .nextMorning, 0⟩

theorem Rules.mentionKeep_shown_parted :
    Record.ofParted.verdict.operation = .delete ∧
    Sheet.cell? "Tags" .ofParted = some "\x7bke: ep\x7d" ∧
    ¬ "keep".toList <:+: "\x7bke: ep\x7d".toList := by
  obtain ⟨cell, shown, -, deleted⟩ :=
    Rules.mentionKeep_shown.2.2 .ofParted .tagOnly .nextMorning 3 rfl (by decide) rfl
  have same : Sheet.cell? "Tags" .ofParted = some "\x7bke: ep\x7d" := by decide
  cases shown.symm.trans same
  have unsaid : ¬ "keep".toList <:+: "\x7bke: ep\x7d".toList := by decide
  exact ⟨deleted.mpr unsaid, same, unsaid⟩

end Retention
