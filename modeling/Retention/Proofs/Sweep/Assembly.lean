import Mathlib.Algebra.GroupWithZero.Nat
import Mathlib.Data.List.Flatten
import Mathlib.Data.Prod.Lex
import Mathlib.Data.String.Basic
import Retention.Sweep.Pool

/-!
Putting results together. Records and issues are sorted by keys that do not tell them all apart, and the
sort keeps the order of those that it cannot tell apart. So the report is the same for every order of the
results in which the entries under one key come in the same order.
-/
namespace Retention

namespace UnitResult

theorem foldl_append (first : UnitResult) (results : List UnitResult) :
    results.foldl (· ++ ·) first =
      ⟨first.records ++ results.flatMap (·.records), first.issues ++ results.flatMap (·.issues),
        first.emptyListings + (results.map (·.emptyListings)).sum⟩ := by
  induction results generalizing first with
  | nil => simp
  | cons result results ih =>
    have joined : first ++ result = first.append result := rfl
    rw [List.foldl_cons, ih, joined]
    simp [append, Nat.add_assoc]

end UnitResult

/-- The place of a record in a report: account, region, kind and id. -/
def Record.key (record : Record) : Nat ×ₗ String ×ₗ Nat ×ₗ String :=
  toLex (record.snapshot.account.rank,
    toLex (record.snapshot.region, toLex (record.kind.rank, record.snapshot.id)))

/-- The place of an issue in a report: account, region and kind. -/
def Issue.key (issue : Issue) : Nat ×ₗ String ×ₗ Nat :=
  toLex (issue.account.rank, toLex (issue.region, issue.resourceKind.rank))

theorem Account.rank_inj {a b : Account} : a.rank = b.rank ↔ a = b := by
  cases a <;> cases b <;> simp [rank]

theorem Kind.rank_inj {a b : Kind} : a.rank = b.rank ↔ a = b := by
  cases a <;> cases b <;> simp [rank]

theorem Record.precedes_iff (a b : Record) : a.precedes b = true ↔ a.key ≤ b.key := by
  simp [precedes, key, Prod.Lex.toLex_le_toLex, Account.rank_inj, Kind.rank_inj]

theorem Issue.precedes_iff (a b : Issue) : a.precedes b = true ↔ a.key ≤ b.key := by
  simp [precedes, key, Prod.Lex.toLex_le_toLex, Account.rank_inj]

theorem Record.key_inj {a b : Record} : a.key = b.key ↔
    a.snapshot.account = b.snapshot.account ∧ a.snapshot.region = b.snapshot.region ∧
      a.kind = b.kind ∧ a.snapshot.id = b.snapshot.id := by
  simp [key, Account.rank_inj, Kind.rank_inj]

theorem Issue.key_inj {a b : Issue} : a.key = b.key ↔
    a.account = b.account ∧ a.region = b.region ∧ a.resourceKind = b.resourceKind := by
  simp [key, Account.rank_inj, Kind.rank_inj]

section Sorting

variable {α κ : Type} [LinearOrder κ] {key : α → κ}

/-- Sorted lists of the same entries are equal if they agree on every key. -/
theorem eq_of_sorted_of_filter {first second : List α}
    (sorted : first.Pairwise fun a b => key a ≤ key b)
    (sorted' : second.Pairwise fun a b => key a ≤ key b) (perm : first.Perm second)
    (agree : ∀ place, first.filter (key · = place) = second.filter (key · = place)) :
    first = second := by
  induction first generalizing second with
  | nil => exact perm.nil_eq
  | cons a first ih =>
    cases second with
    | nil => exact absurd perm.symm (List.not_perm_nil_cons _ _)
    | cons b second =>
      obtain ⟨least, later⟩ := List.pairwise_cons.mp sorted
      obtain ⟨least', later'⟩ := List.pairwise_cons.mp sorted'
      have below : key a ≤ key b := by
        rcases List.mem_cons.mp (perm.mem_iff.mpr List.mem_cons_self) with rfl | inside
        · exact le_refl _
        · exact least b inside
      have above : key b ≤ key a := by
        rcases List.mem_cons.mp (perm.mem_iff.mp List.mem_cons_self) with rfl | inside
        · exact le_refl _
        · exact least' a inside
      have level := le_antisymm below above
      -- Either head is then the first entry under its key, where the lists agree.
      have heads := agree (key a)
      simp only [List.filter_cons, level, decide_true, if_true, List.cons.injEq] at heads
      obtain ⟨rfl, -⟩ := heads
      have rest := ih later later' perm.cons_inv fun place => by
        have whole := agree place
        rw [List.filter_cons, List.filter_cons] at whole
        split at whole
        · exact (List.cons.inj whole).2
        · exact whole
      rw [rest]

variable {le : α → α → Bool}

private theorem le_trans_of_key (reads : ∀ a b, le a b = true ↔ key a ≤ key b) (a b c : α)
    (first : le a b = true) (second : le b c = true) : le a c = true := by
  rw [reads] at first second ⊢
  exact le_trans first second

private theorem le_total_of_key (reads : ∀ a b, le a b = true ↔ key a ≤ key b) (a b : α) :
    (le a b || le b a) = true := by
  rw [Bool.or_eq_true, reads, reads]
  exact le_total (key a) (key b)

theorem pairwise_mergeSort (reads : ∀ a b, le a b = true ↔ key a ≤ key b) (items : List α) :
    (items.mergeSort le).Pairwise fun a b => key a ≤ key b := by
  have sorted := List.pairwise_mergeSort (le_trans_of_key reads) (le_total_of_key reads) items
  exact sorted.imp fun ordered => (reads _ _).mp ordered

theorem filter_mergeSort (reads : ∀ a b, le a b = true ↔ key a ≤ key b) (items : List α)
    (place : κ) :
    (items.mergeSort le).filter (key · = place) = items.filter (key · = place) := by
  have level : (items.filter (key · = place)).Pairwise fun a b => le a b = true := by
    refine List.pairwise_of_forall_mem_list ?_
    intro a inside b inside'
    have here : key a = place := by simpa using (List.mem_filter.mp inside).2
    have here' : key b = place := by simpa using (List.mem_filter.mp inside').2
    rw [reads, here, here']
  have kept := List.sublist_mergeSort (le_trans_of_key reads) (le_total_of_key reads) level
    List.filter_sublist
  have again := kept.filter (key · = place)
  rw [List.filter_filter] at again
  simp only [Bool.and_self] at again
  have perm := (List.mergeSort_perm items le).filter (key · = place)
  exact (again.eq_of_length perm.length_eq.symm).symm

/-- A sorted list depends on the entries, and on their order under each key. -/
theorem mergeSort_eq_of_perm (reads : ∀ a b, le a b = true ↔ key a ≤ key b) {first second : List α}
    (perm : first.Perm second)
    (agree : ∀ place, first.filter (key · = place) = second.filter (key · = place)) :
    first.mergeSort le = second.mergeSort le := by
  have same := (List.mergeSort_perm first le).trans
    (perm.trans (List.mergeSort_perm second le).symm)
  refine eq_of_sorted_of_filter (pairwise_mergeSort reads first) (pairwise_mergeSort reads second)
    same ?_
  intro place
  rw [filter_mergeSort reads, filter_mergeSort reads, agree]

theorem mergeSort_filter (reads : ∀ a b, le a b = true ↔ key a ≤ key b) (p : α → Bool)
    (items : List α) : (items.mergeSort le).filter p = (items.filter p).mergeSort le := by
  have sorted := (pairwise_mergeSort reads items).filter p
  have same : ((items.mergeSort le).filter p).Perm ((items.filter p).mergeSort le) :=
    ((List.mergeSort_perm items le).filter p).trans (List.mergeSort_perm _ le).symm
  refine eq_of_sorted_of_filter sorted (pairwise_mergeSort reads _) same fun place => ?_
  rw [filter_mergeSort reads, List.filter_comm, filter_mergeSort reads, List.filter_comm]

end Sorting

theorem flatMap_eq_of_perm {α β : Type} {f : α → List β} {first second : List α}
    (perm : first.Perm second) (apart : ∀ a ∈ first, ∀ b ∈ first, f a ≠ [] → f b ≠ [] → a = b) :
    first.flatMap f = second.flatMap f := by
  induction perm with
  | nil => rfl
  | cons a _ ih =>
    rw [List.flatMap_cons, List.flatMap_cons, ih fun b inside c inside' =>
      apart b (List.mem_cons_of_mem _ inside) c (List.mem_cons_of_mem _ inside')]
  | swap a b rest =>
    -- Of two neighbours that differ one yields nothing.
    have swapped : f b ++ f a = f a ++ f b := by
      by_cases empty : f a = []
      · simp [empty]
      · by_cases empty' : f b = []
        · simp [empty']
        · rw [apart a (by simp) b (by simp) empty empty']
    rw [List.flatMap_cons, List.flatMap_cons, List.flatMap_cons, List.flatMap_cons,
      ← List.append_assoc, ← List.append_assoc, swapped]
  | trans earlier _ ih ih' =>
    refine (ih apart).trans (ih' ?_)
    intro a inside b inside'
    exact apart a (earlier.mem_iff.mpr inside) b (earlier.mem_iff.mpr inside')

theorem sort_eq_of_apart {α ι κ : Type} [LinearOrder κ] {key : α → κ} {le : α → α → Bool}
    (entries : ι → List α) (reads : ∀ a b, le a b = true ↔ key a ≤ key b)
    {first second : List ι} (perm : first.Perm second)
    (apart : ∀ i ∈ first, ∀ j ∈ first, ∀ a ∈ entries i, ∀ b ∈ entries j, key a = key b → i = j) :
    (first.flatMap entries).mergeSort le = (second.flatMap entries).mergeSort le := by
  refine mergeSort_eq_of_perm reads (perm.flatMap_right _) ?_
  intro place
  rw [List.filter_flatMap, List.filter_flatMap]
  refine flatMap_eq_of_perm perm ?_
  intro i inside j inside' filled filled'
  obtain ⟨a, present⟩ := List.exists_mem_of_ne_nil _ filled
  obtain ⟨b, present'⟩ := List.exists_mem_of_ne_nil _ filled'
  obtain ⟨member, here⟩ := List.mem_filter.mp present
  obtain ⟨member', here'⟩ := List.mem_filter.mp present'
  simp only [decide_eq_true_eq] at here here'
  exact apart i inside j inside' a member b member' (here.trans here'.symm)

namespace Report

/-- What a report says of the resources, apart from what it repeats of the request. -/
def findings (report : Report) : List Record × List Issue × Nat × Dictionary Nat :=
  (report.records, report.summary.issues, report.summary.emptyListings, report.summary.operations)

variable {request : Request} {results others : List UnitResult}

theorem records_assemble : (assemble request results).records =
    (results.flatMap (·.records)).mergeSort Record.precedes := by
  simp [assemble, UnitResult.foldl_append, UnitResult.empty]

theorem issues_assemble : (assemble request results).summary.issues =
    (results.flatMap (·.issues)).mergeSort Issue.precedes := by
  simp [assemble, UnitResult.foldl_append, UnitResult.empty]

theorem emptyListings_assemble : (assemble request results).summary.emptyListings =
    (results.map (·.emptyListings)).sum := by
  simp [assemble, UnitResult.foldl_append, UnitResult.empty]

theorem operations_assemble : (assemble request results).summary.operations =
    .tally ((assemble request results).records.map (·.verdict.operation.name)) := rfl

theorem records_sorted :
    (assemble request results).records.Pairwise fun a b => a.key ≤ b.key := by
  rw [records_assemble]
  exact pairwise_mergeSort Record.precedes_iff _

/-- A report is what the request and the findings make of it. -/
theorem assemble_eq_of_findings
    (same : (assemble request results).findings = (assemble request others).findings) :
    assemble request results = assemble request others := by
  simp only [findings, assemble, Prod.mk.injEq] at same ⊢
  obtain ⟨records, issues, empty, -⟩ := same
  rw [records, issues, empty]

end Report

namespace Pool

variable {request : Request} {pool : Pool}

theorem report_records_perm :
    (pool.report request).records.Perm (pool.received.flatMap (·.result.records)) := by
  rw [report, Report.records_assemble, List.flatMap_map]
  exact List.mergeSort_perm _ _

theorem report_issues_perm :
    (pool.report request).summary.issues.Perm (pool.received.flatMap (·.result.issues)) := by
  rw [report, Report.issues_assemble, List.flatMap_map]
  exact List.mergeSort_perm _ _

theorem mem_report_records {record : Record} :
    record ∈ (pool.report request).records ↔
      ∃ delivery ∈ pool.received, record ∈ delivery.result.records := by
  rw [report_records_perm.mem_iff, List.mem_flatMap]

theorem mem_report_issues {issue : Issue} :
    issue ∈ (pool.report request).summary.issues ↔
      ∃ delivery ∈ pool.received, issue ∈ delivery.result.issues := by
  rw [report_issues_perm.mem_iff, List.mem_flatMap]

end Pool
end Retention
