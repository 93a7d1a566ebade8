import Retention.Hook.Basic
import Retention.Proofs.Words

/-!
The count of failures in the output of the hook. It stands on a line of its own behind a marker, and the last line
with such a count is the one that holds: a line with a marker but no number, or a number that is too large, counts
as little as any other line.
-/
namespace Retention
namespace Hook

/-- The line is the marker and a number, with blanks around each of them. -/
inductive Marks (count : UInt64) : List Char → Prop
  | blanks {front gap number back : List Char} (before : ∀ c ∈ front, Text.isBlank c = true)
      (between : ∀ c ∈ gap, Text.isBlank c = true) (behind : ∀ c ∈ back, Text.isBlank c = true)
      (spells : Text.Spells count number) :
      Marks count (front ++ (failedCountMarker ++ (gap ++ number)) ++ back)

/-- Some line of the output is the marker and a number. -/
def Marked (output : String) : Prop := ∃ line ∈ Text.lines output.toList, ∃ count, Marks count line

/-- The number of the last line that is the marker and a number, and zero if there is none. -/
inductive Counts (output : String) : UInt64 → Prop
  | last {before line after count} (split : Text.lines output.toList = before ++ line :: after)
      (marks : Marks count line) (rest : ∀ line ∈ after, ∀ count, ¬ Marks count line) : Counts output count
  | none (unmarked : ¬ Marked output) : Counts output 0

/-- The text is empty or ends with a line feed, so that what follows begins a line. -/
def EndsLine (text : String) : Prop := text = "" ∨ text.toList.getLast? = some '\n'

variable {line : List Char} {count : UInt64} {output before between after : String}

section Trimmed

variable {gap number : List Char}

theorem trimmed_number (between : ∀ c ∈ gap, Text.isBlank c = true) (spells : Text.Spells count number) :
    Text.trimmed (gap ++ number) = number := by
  have apart : Text.trimmed (gap ++ number ++ []) = Text.trimmed number :=
    Text.trimmed_surrounded between (by simp)
  rwa [List.append_nil, Text.trimmed_of_visible spells.visible.2] at apart

theorem trimmed_marker (gap : List Char) (spells : Text.Spells count number) :
    Text.trimmed (failedCountMarker ++ (gap ++ number)) = failedCountMarker ++ (gap ++ number) := by
  obtain ⟨filled, visible⟩ := spells.visible
  -- It begins with the marker and ends with the number, and neither has a blank there.
  apply Text.trimmed_of_ends
  · intro c first
    have letter : (failedCountMarker ++ (gap ++ number)).head? = some 'f' := rfl
    rw [letter] at first
    cases first
    decide
  · intro c last
    rw [List.getLast?_append_of_ne_nil _ (by simp [filled]), List.getLast?_append_of_ne_nil _ filled] at last
    exact visible c (List.mem_of_getLast? last)

end Trimmed

theorem markedCount?_eq_some_iff : markedCount? line = some count ↔ Marks count line := by
  rw [markedCount?, Option.bind_eq_some_iff]
  simp only [List.isPrefixOf?_eq_some_iff_append_eq, Text.word64?_eq_some_iff]
  constructor
  · rintro ⟨rest, marked, spells⟩
    obtain ⟨front, back, whole, before, behind⟩ := Text.exists_trimmed line
    obtain ⟨gap, tail, split, between, also⟩ := Text.exists_trimmed rest
    have same : line = front ++ (failedCountMarker ++ (gap ++ Text.trimmed rest)) ++ (tail ++ back) := by
      rw [← whole, ← marked]
      conv_lhs => rw [← split]
      simp only [List.append_assoc]
    rw [same]
    exact .blanks before between (List.forall_mem_append.mpr ⟨also, behind⟩) spells
  · rintro ⟨before, between, behind, spells⟩
    rename_i front gap number back
    refine ⟨gap ++ number, ?_, by rwa [trimmed_number between spells]⟩
    rw [Text.trimmed_surrounded before behind, trimmed_marker gap spells]

theorem markedCount?_eq_none_iff : markedCount? line = none ↔ ∀ count, ¬ Marks count line := by
  simp only [Option.eq_none_iff_forall_ne_some, ne_eq, markedCount?_eq_some_iff]

theorem not_marked_iff : ¬ Marked output ↔ ∀ line ∈ Text.lines output.toList, markedCount? line = none := by
  simp only [Marked, not_exists, not_and, markedCount?_eq_none_iff]

/-- The counts on the lines of the output, from the first line to the last. -/
def markedCounts (output : String) : List UInt64 := (Text.lines output.toList).filterMap markedCount?

theorem markedCounts_eq_nil_iff : markedCounts output = [] ↔ ¬ Marked output := by
  rw [markedCounts, List.filterMap_eq_nil_iff, not_marked_iff]

theorem failedCount_eq (output : String) : failedCount output = (markedCounts output).getLast?.getD 0 := rfl

theorem counts_failedCount (output : String) : Counts output (failedCount output) := by
  rw [failedCount_eq]
  cases found : (markedCounts output).getLast? with
  | none => exact .none (markedCounts_eq_nil_iff.mp (List.getLast?_eq_none_iff.mp found))
  | some count =>
    rw [markedCounts, List.getLast?_filterMap, List.findSome?_eq_some_iff] at found
    obtain ⟨after, line, before, split, marks, rest⟩ := found
    have parts : Text.lines output.toList = before.reverse ++ line :: after.reverse := by
      simpa using congrArg List.reverse split
    apply Counts.last parts (markedCount?_eq_some_iff.mp marks)
    intro line member
    exact markedCount?_eq_none_iff.mp (rest line (List.mem_reverse.mp member))

theorem Counts.eq_failedCount (holds : Counts output count) : failedCount output = count := by
  rw [failedCount_eq]
  cases holds with
  | last split marks rest =>
    have none := List.filterMap_eq_nil_iff.mpr fun line member => markedCount?_eq_none_iff.mpr (rest line member)
    rw [markedCounts, split, List.filterMap_append,
      List.filterMap_cons_some (markedCount?_eq_some_iff.mpr marks), none, List.getLast?_concat, Option.getD_some]
  | none unmarked => rw [markedCounts_eq_nil_iff.mpr unmarked, List.getLast?_nil, Option.getD_none]

theorem failedCount_eq_iff : failedCount output = count ↔ Counts output count :=
  ⟨fun value => value ▸ counts_failedCount output, Counts.eq_failedCount⟩

theorem markedCounts_append (ended : EndsLine before) (after : String) :
    markedCounts (before ++ after) = markedCounts before ++ markedCounts after := by
  have apart : before.toList = [] ∨ before.toList.getLast? = some '\n' := by
    rwa [EndsLine, ← String.toList_eq_nil_iff] at ended
  rw [markedCounts, String.toList_append, Text.lines_append apart, List.filterMap_append, markedCounts, markedCounts]

/-- A count behind the end of a line makes what is before it count for nothing. -/
theorem failedCount_append_marked (ended : EndsLine before) (marked : Marked after) :
    failedCount (before ++ after) = failedCount after := by
  have filled : markedCounts after ≠ [] := fun none => markedCounts_eq_nil_iff.mp none marked
  rw [failedCount_eq, markedCounts_append ended, List.getLast?_append_of_ne_nil _ filled, failedCount_eq]

theorem failedCount_append_unmarked (ended : EndsLine before) (unmarked : ¬ Marked after) :
    failedCount (before ++ after) = failedCount before := by
  rw [failedCount_eq, markedCounts_append ended, markedCounts_eq_nil_iff.mpr unmarked, List.append_nil,
    failedCount_eq]

theorem EndsLine.append (ended : EndsLine before) (also : EndsLine between) : EndsLine (before ++ between) := by
  rcases also with rfl | also
  · rwa [String.append_empty]
  · right
    rw [String.toList_append, List.getLast?_append, also, Option.some_or]

/-- Lines without a count change nothing, wherever they stand. -/
theorem failedCount_insert_unmarked (ended : EndsLine before) (also : EndsLine between)
    (unmarked : ¬ Marked between) : failedCount (before ++ between ++ after) = failedCount (before ++ after) := by
  rw [failedCount_eq, markedCounts_append (ended.append also), markedCounts_append ended,
    markedCounts_eq_nil_iff.mpr unmarked, List.append_nil, ← markedCounts_append ended, failedCount_eq]

/-- Output in two parts counts what its second part does, or else what its first part does: always the number of the
last line that is the marker and a number, whatever other lines there are. -/
theorem failedCount_append (before after : String) (ended : EndsLine before) :
    (Marked after → failedCount (before ++ after) = failedCount after) ∧
    (¬ Marked after → failedCount (before ++ after) = failedCount before) ∧
    (∀ between, EndsLine between → ¬ Marked between →
      failedCount (before ++ between ++ after) = failedCount (before ++ after)) ∧
    ∀ output count, failedCount output = count ↔ Counts output count :=
  ⟨failedCount_append_marked ended, failedCount_append_unmarked ended,
    fun _ also unmarked => failedCount_insert_unmarked ended also unmarked, fun _ _ => failedCount_eq_iff⟩

def firstAttempt : String := "failed_count=1\r\n"

def overflow : String := "failed_count=18446744073709551616\n"

def lastAttempt : String := "deleted=9\nfailed_count=\t+4 "

theorem failedCount_append_attempts :
    EndsLine firstAttempt ∧ EndsLine overflow ∧ Marked lastAttempt ∧ ¬ Marked overflow ∧
    failedCount (firstAttempt ++ lastAttempt) = 4 ∧ failedCount (firstAttempt ++ overflow) = 1 ∧
    failedCount (firstAttempt ++ overflow ++ lastAttempt) = 4 := by
  have ended : EndsLine firstAttempt := .inr (by decide)
  have also : EndsLine overflow := .inr (by decide)
  have four : Marks 4 "failed_count=\t+4 ".toList := markedCount?_eq_some_iff.mp (by decide)
  have marked : Marked lastAttempt := ⟨"failed_count=\t+4 ".toList, by decide, 4, four⟩
  have unmarked : ¬ Marked overflow := not_marked_iff.mpr (by decide)
  obtain ⟨later, -, inserted, -⟩ := failedCount_append firstAttempt lastAttempt ended
  obtain ⟨-, earlier, -, holds⟩ := failedCount_append firstAttempt overflow ended
  have last : failedCount lastAttempt = 4 := (holds _ _).mpr <|
    @Counts.last lastAttempt ["deleted=9".toList] "failed_count=\t+4 ".toList [] 4 (by decide) four (by simp)
  have first : failedCount firstAttempt = 1 := by decide
  exact ⟨ended, also, marked, unmarked, (later marked).trans last, (earlier unmarked).trans first,
    (inserted overflow also unmarked).trans ((later marked).trans last)⟩

end Hook
end Retention
