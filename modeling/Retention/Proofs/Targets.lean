import Mathlib.Data.List.Sort
import Retention.CommandLine.Target
import Retention.Proofs.Text

/-!
The kinds that targets choose. A target is the name of a group or of a kind, in any case, with dashes or
underscores, and with blanks around it. Targets choose the kinds of all of them, in the order of the kinds:
how they are spelled, in what order they stand and how often does not matter.
-/
namespace Retention

namespace Text

/-- The text is the core, with blanks around it. -/
def Surrounds (text : String) (core : List Char) : Prop :=
  ∃ front back, text.toList = front ++ core ++ back ∧
    (∀ c ∈ front, isBlank c = true) ∧ ∀ c ∈ back, isBlank c = true

theorem Surrounds.trimmed {text : String} {core : List Char} (surrounds : Surrounds text core) :
    trimmed text.toList = trimmed core := by
  obtain ⟨front, back, same, before, after⟩ := surrounds
  rw [same, trimmed_surrounded before after]

theorem toNat_toLower (c : Char) :
    c.toLower.toNat = if 65 ≤ c.toNat ∧ c.toNat ≤ 90 then c.toNat + 32 else c.toNat := by
  have upper : (c.val ≥ 'A'.val ∧ c.val ≤ 'Z'.val) ↔ 65 ≤ c.toNat ∧ c.toNat ≤ 90 :=
    and_congr UInt32.le_iff_toNat_le UInt32.le_iff_toNat_le
  unfold Char.toLower
  split
  · rename_i inside
    have bounds := upper.mp inside
    rw [if_pos bounds]
    show (c.val + 32).toNat = c.toNat + 32
    have small : c.val.toNat ≤ 90 := bounds.2
    rw [UInt32.toNat_add, Nat.mod_eq_of_lt]
    · rfl
    · show c.val.toNat + 32 < 2 ^ 32
      omega
  · rename_i outside
    rw [if_neg (mt upper.mpr outside)]

theorem toLower_toLower (c : Char) : c.toLower.toLower = c.toLower := by
  have lower := toNat_toLower c
  rw [← Char.toNat_inj, toNat_toLower c.toLower, if_neg]
  split at lower <;> omega

theorem isBlank_toLower (c : Char) : isBlank c.toLower = isBlank c := by
  by_cases upper : 65 ≤ c.toNat ∧ c.toNat ≤ 90
  · have lower := toNat_toLower c
    rw [if_pos upper] at lower
    rw [isBlank_visible (by omega) (by omega), isBlank_visible (by omega) (by omega)]
  · rw [isBlank, toNat_toLower, if_neg upper, isBlank]

end Text

namespace Kind

theorem all_ascending : all.Pairwise (· < ·) := by decide

theorem mem_all (kind : Kind) : kind ∈ all := by cases kind <;> decide

theorem nodup_of_ascending {kinds : List Kind} (ascending : kinds.Pairwise (· < ·)) : kinds.Nodup := by
  refine ascending.imp ?_
  rintro kind _ before rfl
  exact Nat.lt_irrefl kind.rank before

/-- Kinds in ascending order are told by which they are. -/
theorem eq_of_ascending {kinds others : List Kind} (ascending : kinds.Pairwise (· < ·))
    (also : others.Pairwise (· < ·)) (same : ∀ kind, kind ∈ kinds ↔ kind ∈ others) : kinds = others := by
  have irreflexive : Std.Irrefl (fun a b : Kind => a < b) := ⟨fun kind => Nat.lt_irrefl kind.rank⟩
  have antisymmetric : Std.Antisymm (fun a b : Kind => a < b) :=
    ⟨fun a b before after => absurd after (Nat.lt_asymm before)⟩
  exact ascending.eq_of_mem_iff also same

/-- No name is an alias of two kinds. -/
theorem aliases_apart {name : String} {kind other : Kind} (named : name ∈ kind.aliases)
    (also : name ∈ other.aliases) : kind = other := by
  have apart : ∀ kind ∈ all, ∀ other ∈ all, kind ≠ other → ∀ name ∈ kind.aliases, name ∉ other.aliases := by
    decide
  by_contra differ
  exact apart kind (mem_all kind) other (mem_all other) differ name named also

theorem ofSpelling?_eq_some_iff {name : String} {kind : Kind} :
    ofSpelling? name = some kind ↔ name ∈ kind.aliases := by
  constructor
  · intro found
    simpa using List.find?_some found
  · intro named
    cases found : ofSpelling? name with
    | none => exact absurd named (by simpa using List.find?_eq_none.mp found kind (mem_all kind))
    | some other =>
      have also : name ∈ other.aliases := by simpa using List.find?_some found
      rw [aliases_apart named also]

/-- A letter as names of kinds have it. -/
def plain (c : Char) : Char := if c.toLower = '_' then '-' else c.toLower

theorem isBlank_plain (c : Char) : Text.isBlank (plain c) = Text.isBlank c := by
  rw [← Text.isBlank_toLower c, plain]
  split
  · rename_i underscore
    rw [underscore]
    decide
  · rfl

theorem toList_spelling (text : String) :
    (spelling text).toList = Text.trimmed (text.toList.map plain) := by
  rw [Text.trimmed_map isBlank_plain]
  simp [spelling, Text.lowerAscii, Text.trim, Function.comp_def, plain]

end Kind

namespace Target

/-- Letters that differ at most in their case, or are a dash and an underscore. -/
def SameLetter (c d : Char) : Prop := c.toLower = d.toLower ∨ c ∈ ['-', '_'] ∧ d ∈ ['-', '_']

/-- One target in two spellings: blanks around it, the case of its letters, and dashes for underscores. -/
def Respells (target other : String) : Prop :=
  ∃ core again, Text.Surrounds target core ∧ Text.Surrounds other again ∧ List.Forall₂ SameLetter core again

/-- The target is the name of a group with the kind, or a name of the kind that is not one of a group too. -/
inductive Selects (target : String) : Kind → Prop
  | group {name kinds kind} (spelled : Respells target name) (named : group? name = some kinds)
      (member : kind ∈ kinds) : Selects target kind
  | single {name kind} (spelled : Respells target name) (ungrouped : group? name = none)
      (named : name ∈ kind.aliases) : Selects target kind

/-- The target is the name of a group or of a kind. -/
def Known (target : String) : Prop :=
  ∃ name, Respells target name ∧ ((∃ kinds, group? name = some kinds) ∨ ∃ kind : Kind, name ∈ kind.aliases)

/-- What targets choose: the kinds of each of them, in the order of the kinds, and all if there is none. -/
structure Chosen (targets : List String) (kinds : List Kind) : Prop where
  ascending : kinds.Pairwise (· < ·)
  selected : ∀ kind, kind ∈ kinds ↔ targets = [] ∨ ∃ target ∈ targets, Selects target kind

variable {target other : String} {targets others : List String} {kind : Kind} {kinds : List Kind}

/-! One target. -/

theorem plain_of_sameLetter {c d : Char} (same : SameLetter c d) : Kind.plain c = Kind.plain d := by
  rcases same with lower | ⟨first, second⟩
  · rw [Kind.plain, lower, Kind.plain]
  · have dash : ∀ c ∈ ['-', '_'], Kind.plain c = '-' := by
      simp only [List.forall_mem_cons, List.not_mem_nil, false_implies, implies_true, and_true]
      exact ⟨rfl, rfl⟩
    rw [dash c first, dash d second]

theorem map_plain {core again : List Char} (same : List.Forall₂ SameLetter core again) :
    core.map Kind.plain = again.map Kind.plain := by
  induction same with
  | nil => rfl
  | cons letter _ ih => rw [List.map_cons, List.map_cons, plain_of_sameLetter letter, ih]

theorem Respells.spelling_eq (respells : Respells target other) :
    Kind.spelling target = Kind.spelling other := by
  obtain ⟨core, again, inside, also, same⟩ := respells
  refine String.toList_inj.mp ?_
  rw [Kind.toList_spelling, Kind.toList_spelling, Text.trimmed_map Kind.isBlank_plain, inside.trimmed,
    ← Text.trimmed_map Kind.isBlank_plain, map_plain same, Text.trimmed_map Kind.isBlank_plain,
    ← also.trimmed, ← Text.trimmed_map Kind.isBlank_plain]

theorem sameLetter_plain (c : Char) : SameLetter c (Kind.plain c) := by
  unfold Kind.plain
  split
  · rename_i underscore
    have lower := Text.toNat_toLower c
    have code : '_'.toNat = 95 := rfl
    have same : c.toNat = '_'.toNat := by
      rw [underscore] at lower
      split at lower <;> omega
    rw [Char.toNat_inj.mp same]
    exact .inr ⟨by decide, by decide⟩
  · exact .inl (Text.toLower_toLower c).symm

/-- A target is a spelling of the name that it is compared as. -/
theorem respells_spelling (target : String) : Respells target (Kind.spelling target) := by
  obtain ⟨front, back, whole, before, after⟩ := Text.exists_trimmed target.toList
  refine ⟨Text.trimmed target.toList, (Text.trimmed target.toList).map Kind.plain,
    ⟨front, back, whole.symm, before, after⟩, ⟨[], [], ?_, by simp, by simp⟩, ?_⟩
  · rw [Kind.toList_spelling, Text.trimmed_map Kind.isBlank_plain, List.nil_append, List.append_nil]
  · rw [List.forall₂_map_right_iff]
    exact List.forall₂_same.mpr fun c _ => sameLetter_plain c

theorem Respells.eq_of_group? {name : String} (respells : Respells target name)
    (named : group? name = some kinds) : Kind.spelling target = name := by
  rw [respells.spelling_eq]
  unfold group? at named
  split at named
  · decide
  · decide
  · decide
  · decide
  · cases named

theorem Respells.eq_of_mem_aliases {name : String} (respells : Respells target name)
    (named : name ∈ kind.aliases) : Kind.spelling target = name := by
  have plain : ∀ kind ∈ Kind.all, ∀ name ∈ kind.aliases, Kind.spelling name = name := by
    decide +kernel
  rw [respells.spelling_eq, plain kind (Kind.mem_all kind) name named]

theorem expansion?_eq (target : String) : expansion? target =
    (group? (Kind.spelling target)).or ((Kind.ofSpelling? (Kind.spelling target)).map ([·])) := by
  unfold expansion?
  exact Option.orElse_eq_or

theorem expansion?_congr (same : Kind.spelling target = Kind.spelling other) :
    expansion? target = expansion? other := by
  rw [expansion?_eq, same, expansion?_eq]

theorem isSome_expansion?_iff : (expansion? target).isSome = true ↔ Known target := by
  simp only [expansion?_eq, Option.isSome_or, Option.isSome_map, Bool.or_eq_true, Option.isSome_iff_exists,
    Kind.ofSpelling?_eq_some_iff]
  constructor
  · exact fun named => ⟨_, respells_spelling target, named⟩
  · rintro ⟨name, spelled, ⟨kinds, grouped⟩ | ⟨kind, named⟩⟩
    · exact .inl ⟨kinds, spelled.eq_of_group? grouped ▸ grouped⟩
    · exact .inr ⟨kind, spelled.eq_of_mem_aliases named ▸ named⟩

theorem mem_expansion?_iff : kind ∈ (expansion? target).getD [] ↔ Selects target kind := by
  rw [expansion?_eq]
  cases grouped : group? (Kind.spelling target) with
  | some kinds =>
    rw [Option.some_or, Option.getD_some]
    constructor
    · exact .group (respells_spelling target) grouped
    · intro selects
      cases selects with
      | group spelled named member =>
        rw [spelled.eq_of_group? named] at grouped
        cases grouped.symm.trans named
        exact member
      | single spelled ungrouped named =>
        rw [spelled.eq_of_mem_aliases named] at grouped
        cases grouped.symm.trans ungrouped
  | none =>
    have alone : kind ∈ ((Kind.ofSpelling? (Kind.spelling target)).map ([·])).getD [] ↔
        Kind.spelling target ∈ kind.aliases := by
      rw [← Kind.ofSpelling?_eq_some_iff]
      cases Kind.ofSpelling? (Kind.spelling target) <;> simp [eq_comm]
    rw [Option.none_or, alone]
    constructor
    · exact .single (respells_spelling target) grouped
    · intro selects
      cases selects with
      | group spelled named _ =>
        rw [spelled.eq_of_group? named] at grouped
        cases grouped.symm.trans named
      | single spelled _ named => rwa [spelled.eq_of_mem_aliases named]

/-! All targets. -/

theorem isNone_expansion?_iff : (expansion? target).isNone = true ↔ ¬ Known target := by
  rw [← isSome_expansion?_iff, ← Option.not_isSome, Bool.not_eq_true', Bool.not_eq_true]

theorem resolve_eq_error_iff_find? : resolve targets = .error target ↔
    targets.find? (fun word => (expansion? word).isNone) = some target := by
  unfold resolve
  split <;> simp [*]

/-- The first target that names nothing is the failure, as it is written. -/
theorem resolve_eq_error_iff : resolve targets = .error target ↔
    ∃ before after, targets = before ++ target :: after ∧ (∀ earlier ∈ before, Known earlier) ∧
      ¬ Known target := by
  rw [resolve_eq_error_iff_find?, List.find?_eq_some_iff_append, isNone_expansion?_iff]
  constructor
  · rintro ⟨stray, before, after, split, each⟩
    refine ⟨before, after, split, fun earlier member => isSome_expansion?_iff.mp ?_, stray⟩
    simpa using each earlier member
  · rintro ⟨before, after, split, each, stray⟩
    refine ⟨stray, before, after, split, fun earlier member => ?_⟩
    simpa using isSome_expansion?_iff.mpr (each earlier member)

theorem resolve_fails_iff :
    (∃ target, resolve targets = .error target) ↔ ∃ target ∈ targets, ¬ Known target := by
  simp only [resolve_eq_error_iff_find?, ← Option.isSome_iff_exists, List.find?_isSome, isNone_expansion?_iff]

theorem resolve_sublist (resolved : resolve targets = .ok kinds) : kinds.Sublist Kind.all := by
  unfold resolve at resolved
  split at resolved
  · cases resolved
  · cases resolved
    split
    · exact .refl _
    · exact List.filter_sublist

theorem mem_resolve_iff (resolved : resolve targets = .ok kinds) :
    kind ∈ kinds ↔ targets = [] ∨ ∃ target ∈ targets, Selects target kind := by
  unfold resolve at resolved
  split at resolved
  · cases resolved
  · cases resolved
    by_cases none : targets = []
    · simp [none, Kind.mem_all]
    · have filled : targets.isEmpty = false := by simpa using none
      simp only [filled, Bool.false_eq_true, if_false, List.mem_filter, Kind.mem_all, true_and,
        List.contains_iff_mem, List.mem_flatMap, mem_expansion?_iff, none, false_or]

theorem chosen_of_resolve (resolved : resolve targets = .ok kinds) : Chosen targets kinds where
  ascending := Kind.all_ascending.sublist (resolve_sublist resolved)
  selected _ := mem_resolve_iff resolved

theorem Chosen.unique {again : List Kind} (chosen : Chosen targets kinds) (also : Chosen targets again) :
    kinds = again :=
  Kind.eq_of_ascending chosen.ascending also.ascending fun kind => by rw [chosen.selected, also.selected]

theorem resolve_eq_ok_iff : resolve targets = .ok kinds ↔
    (∀ target ∈ targets, Known target) ∧ Chosen targets kinds := by
  constructor
  · intro resolved
    refine ⟨fun target member => ?_, chosen_of_resolve resolved⟩
    by_contra stray
    obtain ⟨word, failed⟩ := resolve_fails_iff.mpr ⟨target, member, stray⟩
    cases resolved.symm.trans failed
  · rintro ⟨known, chosen⟩
    cases resolved : resolve targets with
    | error target =>
      obtain ⟨word, member, stray⟩ := resolve_fails_iff.mp ⟨target, resolved⟩
      exact absurd (known word member) stray
    | ok again => rw [chosen.unique (chosen_of_resolve resolved)]

/-! Targets that say the same. -/

theorem Respells.selects_iff (respells : Respells target other) :
    Selects other kind ↔ Selects target kind := by
  rw [← mem_expansion?_iff, ← mem_expansion?_iff, expansion?_congr respells.spelling_eq]

theorem Respells.known_iff (respells : Respells target other) : Known other ↔ Known target := by
  rw [← isSome_expansion?_iff, ← isSome_expansion?_iff, expansion?_congr respells.spelling_eq]

section Restated

variable (each : ∀ other ∈ others, ∃ target ∈ targets, Respells target other)
  (every : ∀ target ∈ targets, ∃ other ∈ others, Respells target other)
include each every

theorem eq_nil_restated : others = [] ↔ targets = [] := by
  constructor
  · rintro rfl
    refine List.eq_nil_iff_forall_not_mem.mpr fun target member => ?_
    obtain ⟨other, none, -⟩ := every target member
    cases none
  · rintro rfl
    refine List.eq_nil_iff_forall_not_mem.mpr fun other member => ?_
    obtain ⟨target, none, -⟩ := each other member
    cases none

theorem known_restated : (∀ other ∈ others, Known other) ↔ ∀ target ∈ targets, Known target := by
  constructor
  · intro known target member
    obtain ⟨other, stands, respells⟩ := every target member
    exact respells.known_iff.mp (known other stands)
  · intro known other member
    obtain ⟨target, stands, respells⟩ := each other member
    exact respells.known_iff.mpr (known target stands)

theorem chosen_restated : Chosen others kinds ↔ Chosen targets kinds := by
  have selected (kind : Kind) : (∃ other ∈ others, Selects other kind) ↔
      ∃ target ∈ targets, Selects target kind := by
    constructor
    · rintro ⟨other, member, selects⟩
      obtain ⟨target, stands, respells⟩ := each other member
      exact ⟨target, stands, respells.selects_iff.mp selects⟩
    · rintro ⟨target, member, selects⟩
      obtain ⟨other, stands, respells⟩ := every target member
      exact ⟨other, stands, respells.selects_iff.mpr selects⟩
  have none := eq_nil_restated each every
  constructor
  · rintro ⟨ascending, chosen⟩
    exact ⟨ascending, fun kind => by rw [chosen, none, selected]⟩
  · rintro ⟨ascending, chosen⟩
    exact ⟨ascending, fun kind => by rw [chosen, none, selected]⟩

theorem resolve_restated : (resolve others).toOption = (resolve targets).toOption := by
  have same (kinds : List Kind) : resolve others = .ok kinds ↔ resolve targets = .ok kinds := by
    rw [resolve_eq_ok_iff, resolve_eq_ok_iff, known_restated each every, chosen_restated each every]
  cases resolved : resolve targets with
  | ok kinds => rw [(same kinds).mpr resolved]
  | error target =>
    cases again : resolve others with
    | ok kinds => cases resolved.symm.trans ((same kinds).mp again)
    | error other => rfl

end Restated

/-- Targets are resolved unless one of them names nothing, and the first one that does not is told as it is
written. They come to the kinds that they choose, in the order of the kinds; the same targets in another
order, repeated or spelled otherwise come to the same, and more of them add what they choose. -/
theorem resolve_exact (targets : List String) :
    ((∃ target, resolve targets = .error target) ↔ ∃ target ∈ targets, ¬ Known target) ∧
    (∀ target, resolve targets = .error target ↔
      ∃ before after, targets = before ++ target :: after ∧ (∀ earlier ∈ before, Known earlier) ∧
        ¬ Known target) ∧
    (∀ kinds, resolve targets = .ok kinds ↔ (∀ target ∈ targets, Known target) ∧ Chosen targets kinds) ∧
    (∀ others, (∀ other ∈ others, ∃ target ∈ targets, Respells target other) →
      (∀ target ∈ targets, ∃ other ∈ others, Respells target other) →
      (resolve others).toOption = (resolve targets).toOption) ∧
    ∀ more kinds added, targets ≠ [] → more ≠ [] →
      resolve targets = .ok kinds → resolve more = .ok added →
      ∃ joined, resolve (targets ++ more) = .ok joined ∧ joined.Pairwise (· < ·) ∧
        ∀ kind, kind ∈ joined ↔ kind ∈ kinds ∨ kind ∈ added := by
  refine ⟨resolve_fails_iff, fun _ => resolve_eq_error_iff, fun _ => resolve_eq_ok_iff,
    fun others each every => resolve_restated each every, ?_⟩
  intro more kinds added some also resolved extended
  obtain ⟨known, chosen⟩ := resolve_eq_ok_iff.mp resolved
  obtain ⟨others, further⟩ := resolve_eq_ok_iff.mp extended
  cases joined : resolve (targets ++ more) with
  | error target =>
    obtain ⟨word, member, stray⟩ := resolve_fails_iff.mp ⟨target, joined⟩
    exact absurd (List.forall_mem_append.mpr ⟨known, others⟩ word member) stray
  | ok both =>
    have whole := chosen_of_resolve joined
    refine ⟨both, rfl, whole.ascending, fun kind => ?_⟩
    simp only [whole.selected, chosen.selected, further.selected, some, also, List.append_eq_nil_iff,
      false_and, false_or, List.mem_append, or_and_right, exists_or]

/-- A group, a kind of it under two other names, and a group that is also the alias of a kind. -/
example : resolve [" RDS", "EBS\t", "ec2_ebs", "volumes"] =
    .ok [.vmInstance, .volume, .dbInstance, .dbSnapshot] := by
  decide +kernel

end Target
end Retention
