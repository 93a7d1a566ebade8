import Mathlib.Data.List.Forall2
import Mathlib.Data.List.Nodup
import Retention.Proofs.ByteOrder
import Retention.Proofs.Dictionary
import Retention.Proofs.Except
import Retention.Settings.Policies

/-!
Policies from settings. They are resolved where every configured name is a kind, no kind has two names, and
the settings of the requested kinds make sense; then the policy of a kind comes from its own settings and the
general threshold. What is refused is at fault as the error says.
-/
namespace Retention

/-- The settings stand under a name of the kind. -/
def Settings.Configures (settings : Settings) (kind : Kind) (name : String) (entry : KindSettings) :
    Prop :=
  (name, entry) ∈ settings.kinds.entries ∧ Kind.parse? name = some kind

namespace KindSettings

def AsksAge (entry : KindSettings) : Prop :=
  ∃ value, entry.mode = some value ∧ Mode.parse? value = some .tagWithAge

/-- The mode, where it is given, is one, and the mode with age is left to kinds that have an age policy. -/
structure Sound (entry : KindSettings) (kind : Kind) : Prop where
  mode : ∀ value, entry.mode = some value → ∃ mode, Mode.parse? value = some mode
  aged : entry.AsksAge → kind.hasAgePolicy = true

end KindSettings

namespace Settings

/-- What the settings have to be like, so that there are policies for the kinds. -/
structure Resolvable (settings : Settings) (kinds : List Kind) : Prop where
  known : ∀ name ∈ settings.kinds.keys, ∃ kind, Kind.parse? name = some kind
  apart : ∀ kind first one second other, settings.Configures kind first one →
    settings.Configures kind second other → first = second
  sound : ∀ kind ∈ kinds, ∀ name entry, settings.Configures kind name entry → entry.Sound kind

/-- The policy that the settings give to a kind. A threshold of its own goes before the general one. -/
inductive Grants (settings : Settings) (kind : Kind) : Policy → Prop
  | aged {name entry} (configured : settings.Configures kind name entry) (asks : entry.AsksAge) :
      Grants settings kind (.tagWithAge (entry.maxAgeDays.getD settings.maxAgeDays))
  | tagsAlone (plain : ∀ name entry, settings.Configures kind name entry → ¬ entry.AsksAge) :
      Grants settings kind .tagOnly

/-- What is wrong with the settings, where the kinds are asked for and there is no policy for one of them. -/
inductive Fault (settings : Settings) (kinds : List Kind) : PolicyError → Prop
  | unknownKind {name} (configured : name ∈ settings.kinds.keys) (unknown : Kind.parse? name = none) :
      Fault settings kinds (.unknownKind name)
  | duplicateKind {kind first one second other} (earlier : settings.Configures kind first one)
      (later : settings.Configures kind second other)
      (order : Text.Utf8.encode first < Text.Utf8.encode second) :
      Fault settings kinds (.duplicateKind kind first second)
  | unknownMode {kind name entry value} (asked : kind ∈ kinds)
      (configured : settings.Configures kind name entry) (given : entry.mode = some value)
      (unknown : Mode.parse? value = none) : Fault settings kinds (.unknownMode kind value)
  | ageNotSupported {kind name entry} (asked : kind ∈ kinds)
      (configured : settings.Configures kind name entry) (asks : entry.AsksAge)
      (ageless : kind.hasAgePolicy = false) : Fault settings kinds (.ageNotSupported kind)

/-- What comes of the settings of one kind. -/
inductive Ruled (settings : Settings) (kind : Kind) (entry : KindSettings) :
    Except PolicyError Policy → Prop
  | aged (asks : entry.AsksAge) (sound : entry.Sound kind) :
      Ruled settings kind entry (.ok (.tagWithAge (entry.maxAgeDays.getD settings.maxAgeDays)))
  | tagsAlone (plain : ¬ entry.AsksAge) (sound : entry.Sound kind) :
      Ruled settings kind entry (.ok .tagOnly)
  | unknown {value} (given : entry.mode = some value) (unknown : Mode.parse? value = none) :
      Ruled settings kind entry (.error (.unknownMode kind value))
  | ageless (asks : entry.AsksAge) (ageless : kind.hasAgePolicy = false) :
      Ruled settings kind entry (.error (.ageNotSupported kind))

variable {settings : Settings} {kind : Kind} {entry : KindSettings}

theorem policyOf_eq (settings : Settings) (kind : Kind) (entry : KindSettings) :
    settings.policyOf kind entry = match modeOf kind entry.mode with
      | .error failure => .error failure
      | .ok .tagOnly => .ok .tagOnly
      | .ok .tagWithAge =>
        if kind.hasAgePolicy then .ok (.tagWithAge (entry.maxAgeDays.getD settings.maxAgeDays))
        else .error (.ageNotSupported kind) := by
  unfold policyOf
  cases modeOf kind entry.mode with
  | error failure => rfl
  | ok mode => cases mode <;> rfl

theorem policyOf_ruled (settings : Settings) (kind : Kind) (entry : KindSettings) :
    Ruled settings kind entry (settings.policyOf kind entry) := by
  rw [policyOf_eq]
  cases given : entry.mode with
  | none =>
    have plain : ¬ entry.AsksAge := by simp [KindSettings.AsksAge, given]
    exact .tagsAlone plain ⟨by simp [given], fun asks => absurd asks plain⟩
  | some value =>
    have asksAge : entry.AsksAge ↔ Mode.parse? value = some .tagWithAge := by
      simp [KindSettings.AsksAge, given]
    cases known : Mode.parse? value with
    | none =>
      simp only [modeOf, known]
      exact .unknown given known
    | some mode =>
      have valid : ∀ other, entry.mode = some other → ∃ mode, Mode.parse? other = some mode := by
        intro other same
        cases given.symm.trans same
        exact ⟨mode, known⟩
      simp only [modeOf, known]
      cases mode with
      | tagOnly =>
        have plain : ¬ entry.AsksAge := by simp [asksAge, known]
        exact .tagsAlone plain ⟨valid, fun asks => absurd asks plain⟩
      | tagWithAge =>
        have asks := asksAge.mpr known
        cases has : kind.hasAgePolicy with
        | true => exact .aged asks ⟨valid, fun _ => has⟩
        | false => exact .ageless asks has

/-- The policy that a kind gets, or the reason why it gets none. -/
def ruling (settings : Settings) (configured : List ConfiguredKind) (kind : Kind) :
    Except PolicyError Policy :=
  match configured.find? (·.kind = kind) with
  | none => .ok .tagOnly
  | some one => settings.policyOf kind one.settings

variable {configured : List ConfiguredKind} {table final : PolicyTable} {kinds : List Kind}

theorem addPolicy_eq (settings : Settings) (configured : List ConfiguredKind) (table : PolicyTable)
    (kind : Kind) :
    settings.addPolicy configured table kind = (settings.ruling configured kind).map (table.set kind) := by
  unfold addPolicy ruling
  cases configured.find? (·.kind = kind) <;> rfl

/-- The table has an entry for each of the kinds, and none of the entries depends on another. -/
theorem foldlM_addPolicy_eq_ok_iff : kinds.foldlM (settings.addPolicy configured) table = .ok final ↔
    (∀ kind ∈ kinds, ∃ policy, settings.ruling configured kind = .ok policy) ∧
    ∀ kind, final kind =
      if kind ∈ kinds then (settings.ruling configured kind).toOption else table kind := by
  induction kinds generalizing table with
  | nil =>
    simp [pure, Except.pure, funext_iff, eq_comm]
  | cons first kinds ih =>
    rw [List.foldlM_cons, addPolicy_eq]
    cases ruled : settings.ruling configured first with
    | error failure =>
      simp [Except.map, bind, Except.bind, ruled]
    | ok policy =>
      show kinds.foldlM (settings.addPolicy configured) (table.set first policy) = _ ↔ _
      rw [ih]
      refine and_congr (by simp [ruled]) (forall_congr' fun kind => ?_)
      -- A kind asked for again is ruled again, to the same end.
      by_cases later : kind ∈ kinds
      · simp [later]
      · by_cases same : kind = first
        · subst same
          simp [later, PolicyTable.set, ruled, Except.toOption]
        · simp [later, same, PolicyTable.set]

end Settings

namespace ConfiguredKind

variable {found next final configured : List ConfiguredKind} {entry : String × KindSettings}
  {entries : List (String × KindSettings)} {failure : PolicyError}

/-- The entry, and what is read from it. -/
structure Reads (entry : String × KindSettings) (one : ConfiguredKind) : Prop where
  name : one.name = entry.1
  settings : one.settings = entry.2
  kind : Kind.parse? entry.1 = some one.kind

/-- What comes of one more entry. -/
inductive Extended (found : List ConfiguredKind) (entry : String × KindSettings) :
    Except PolicyError (List ConfiguredKind) → Prop
  | unknown (unknown : Kind.parse? entry.1 = none) : Extended found entry (.error (.unknownKind entry.1))
  | taken {earlier} (member : earlier ∈ found) (known : Kind.parse? entry.1 = some earlier.kind) :
      Extended found entry (.error (.duplicateKind earlier.kind earlier.name entry.1))
  | added {one} (reads : Reads entry one) (free : ∀ earlier ∈ found, earlier.kind ≠ one.kind) :
      Extended found entry (.ok (found ++ [one]))

theorem extend_extended (found : List ConfiguredKind) (entry : String × KindSettings) :
    Extended found entry (extend found entry) := by
  unfold extend
  cases known : Kind.parse? entry.1 with
  | none => exact .unknown known
  | some kind =>
    cases taken : found.find? (·.kind = kind) with
    | some earlier =>
      obtain rfl : earlier.kind = kind := by simpa using List.find?_some taken
      simp only [taken]
      exact .taken (List.mem_of_find?_eq_some taken) known
    | none =>
      simp only [taken]
      exact .added ⟨rfl, rfl, known⟩ (by simpa using taken)

theorem Reads.unique {one other : ConfiguredKind} (reads : Reads entry one) (again : Reads entry other) :
    one = other := by
  have kind := Option.some.inj (reads.kind.symm.trans again.kind)
  have name := reads.name.trans again.name.symm
  have settings := reads.settings.trans again.settings.symm
  cases one
  cases other
  simp_all

theorem extend_eq_ok_iff : extend found entry = .ok next ↔
    ∃ one, Reads entry one ∧ (∀ earlier ∈ found, earlier.kind ≠ one.kind) ∧ next = found ++ [one] := by
  have step := extend_extended found entry
  constructor
  · intro accepted
    rw [accepted] at step
    cases step with
    | added reads free => exact ⟨_, reads, free, rfl⟩
  · rintro ⟨one, reads, free, rfl⟩
    generalize extend found entry = result at step
    cases step with
    | unknown unknown => cases unknown.symm.trans reads.kind
    | taken member known =>
      exact absurd (Option.some.inj (known.symm.trans reads.kind)) (free _ member)
    | added again => rw [again.unique reads]

/-- Each entry is read, and the kinds are apart from each other and from those found before. -/
theorem foldlM_extend_eq_ok_iff : entries.foldlM extend found = .ok final ↔
    ∃ added, final = found ++ added ∧ List.Forall₂ Reads entries added ∧
      added.Pairwise (·.kind ≠ ·.kind) ∧ ∀ earlier ∈ found, ∀ later ∈ added, earlier.kind ≠ later.kind := by
  induction entries generalizing found with
  | nil =>
    simp [pure, Except.pure, eq_comm]
  | cons entry entries ih =>
    have steps : (entry :: entries).foldlM extend found = .ok final ↔
        ∃ next, extend found entry = .ok next ∧ entries.foldlM extend next = .ok final := by
      rw [List.foldlM_cons, bind_eq_ok_iff]
    simp only [steps, extend_eq_ok_iff, ih]
    constructor
    · rintro ⟨next, ⟨one, reads, free, rfl⟩, added, rfl, each, apart, fresh⟩
      refine ⟨one :: added, by simp, .cons reads each, .cons ?_ apart, ?_⟩
      · exact fun later member => fresh one (by simp) later member
      · intro earlier old later new
        rcases List.mem_cons.mp new with rfl | behind
        · exact free earlier old
        · exact fresh earlier (List.mem_append_left _ old) later behind
    · rintro ⟨added, rfl, each, apart, fresh⟩
      cases each with
      | @cons _ one _ added reads each =>
        obtain ⟨first, apart⟩ := List.pairwise_cons.mp apart
        refine ⟨found ++ [one], ⟨one, reads, ?_, rfl⟩, added, by simp, each, apart, ?_⟩
        · exact fun earlier old => fresh earlier old one List.mem_cons_self
        · intro earlier old later new
          rcases List.mem_append.mp old with before | last
          · exact fresh earlier before later (List.mem_cons_of_mem _ new)
          · rw [List.mem_singleton.mp last]
            exact first later new

theorem ofEntries_eq_ok_iff : ofEntries entries = .ok configured ↔
    List.Forall₂ Reads entries configured ∧ configured.Pairwise (·.kind ≠ ·.kind) := by
  rw [ofEntries, foldlM_extend_eq_ok_iff]
  simp

theorem known_of_reads (each : List.Forall₂ Reads entries configured) (member : entry ∈ entries) :
    ∃ kind, Kind.parse? entry.1 = some kind := by
  induction each with
  | nil => cases member
  | @cons _ one _ _ reads _ ih =>
    rcases List.mem_cons.mp member with rfl | later
    · exact ⟨one.kind, reads.kind⟩
    · exact ih later

theorem mem_configured_iff (each : List.Forall₂ Reads entries configured) (one : ConfiguredKind) :
    one ∈ configured ↔
      (one.name, one.settings) ∈ entries ∧ Kind.parse? one.name = some one.kind := by
  induction each with
  | nil => simp
  | @cons entry first entries configured reads _ ih =>
    have head : one = first ↔
        (one.name, one.settings) = entry ∧ Kind.parse? one.name = some one.kind := by
      constructor
      · rintro rfl
        rw [reads.name, reads.settings]
        exact ⟨rfl, reads.kind⟩
      · rintro ⟨rfl, known⟩
        have again : Reads (one.name, one.settings) one := ⟨rfl, rfl, known⟩
        exact again.unique reads
    rw [List.mem_cons, List.mem_cons, ih, head, or_and_right]

theorem find?_eq_some_iff (apart : configured.Pairwise (·.kind ≠ ·.kind)) {kind : Kind}
    {one : ConfiguredKind} :
    configured.find? (·.kind = kind) = some one ↔ one ∈ configured ∧ one.kind = kind := by
  have distinct : (configured.map (·.kind)).Nodup := List.pairwise_map.mpr apart
  constructor
  · intro found
    exact ⟨List.mem_of_find?_eq_some found, by simpa using List.find?_some found⟩
  · rintro ⟨member, same⟩
    cases found : configured.find? (·.kind = kind) with
    | none => exact absurd same (by simpa using List.find?_eq_none.mp found one member)
    | some other =>
      have kinds : other.kind = one.kind := by
        rw [same]
        simpa using List.find?_some found
      rw [List.inj_on_of_nodup_map distinct (List.mem_of_find?_eq_some found) member kinds]

/-- Entries are refused for the first name that is no kind, or is another name of a kind before it. -/
theorem ofEntries_eq_error (failed : ofEntries entries = .error failure) :
    ∃ before entry after, entries = before ++ entry :: after ∧
      (Kind.parse? entry.1 = none ∧ failure = .unknownKind entry.1 ∨
        ∃ earlier ∈ before, ∃ kind, Kind.parse? earlier.1 = some kind ∧
          Kind.parse? entry.1 = some kind ∧ failure = .duplicateKind kind earlier.1 entry.1) := by
  obtain ⟨before, entry, after, found, rfl, ran, refused⟩ := exists_of_foldlM_eq_error failed
  refine ⟨before, entry, after, rfl, ?_⟩
  have each := (ofEntries_eq_ok_iff.mp ran).1
  have step := extend_extended found entry
  rw [refused] at step
  cases step with
  | unknown unknown => exact .inl ⟨unknown, rfl⟩
  | @taken earlier member known =>
    obtain ⟨stands, named⟩ := (mem_configured_iff each earlier).mp member
    exact .inr ⟨_, stands, earlier.kind, named, known, rfl⟩

end ConfiguredKind

namespace Settings

variable {settings other : Settings} {kind : Kind} {name : String} {entry : KindSettings}
  {configured : List ConfiguredKind} {kinds others : List Kind} {policy : Policy}
  {policies outcome : PolicyTable} {failure : PolicyError}

theorem resolvePolicies_eq_ok_iff : settings.resolvePolicies kinds = .ok policies ↔
    ∃ configured, ConfiguredKind.ofEntries settings.kinds.entries = .ok configured ∧
      kinds.foldlM (settings.addPolicy configured) .empty = .ok policies := bind_eq_ok_iff

section Configured

variable (read : ConfiguredKind.ofEntries settings.kinds.entries = .ok configured)
include read

theorem configures_iff (kind : Kind) (name : String) (entry : KindSettings) :
    settings.Configures kind name entry ↔ ⟨kind, name, entry⟩ ∈ configured := by
  have each := (ConfiguredKind.ofEntries_eq_ok_iff.mp read).1
  rw [ConfiguredKind.mem_configured_iff each, Configures]

theorem find?_configured_iff : configured.find? (·.kind = kind) = some ⟨kind, name, entry⟩ ↔
    settings.Configures kind name entry := by
  rw [ConfiguredKind.find?_eq_some_iff (ConfiguredKind.ofEntries_eq_ok_iff.mp read).2,
    configures_iff read]
  simp

theorem ruling_of_configures (configures : settings.Configures kind name entry) :
    settings.ruling configured kind = settings.policyOf kind entry := by
  rw [ruling, (find?_configured_iff read).mpr configures]

theorem ruling_of_unconfigured (unset : ∀ name entry, ¬ settings.Configures kind name entry) :
    settings.ruling configured kind = .ok .tagOnly := by
  unfold ruling
  cases found : configured.find? (·.kind = kind) with
  | none => rfl
  | some one =>
    obtain rfl : one.kind = kind := by simpa using List.find?_some found
    exact absurd ((find?_configured_iff read).mp found) (unset one.name one.settings)

theorem known_of_mem_keys (member : name ∈ settings.kinds.keys) :
    ∃ kind, Kind.parse? name = some kind := by
  obtain ⟨entry, inside, rfl⟩ := List.mem_map.mp member
  exact ConfiguredKind.known_of_reads (ConfiguredKind.ofEntries_eq_ok_iff.mp read).1 inside

theorem eq_of_configures {second : String} {one : KindSettings}
    (first : settings.Configures kind name entry) (again : settings.Configures kind second one) :
    name = second ∧ entry = one := by
  have found := (find?_configured_iff read).mpr first
  rw [(find?_configured_iff read).mpr again] at found
  cases found
  exact ⟨rfl, rfl⟩

theorem grants_of_ruling (ruled : settings.ruling configured kind = .ok policy) :
    settings.Grants kind policy := by
  by_cases set : ∃ name entry, settings.Configures kind name entry
  · obtain ⟨name, entry, configures⟩ := set
    have outcome := policyOf_ruled settings kind entry
    rw [← ruling_of_configures read configures, ruled] at outcome
    cases outcome with
    | aged asks _ => exact .aged configures asks
    | tagsAlone plain _ =>
      refine .tagsAlone fun second one again asks => plain ?_
      rwa [(eq_of_configures read configures again).2]
  · have unset : ∀ name entry, ¬ settings.Configures kind name entry := by simpa using set
    rw [ruling_of_unconfigured read unset] at ruled
    cases ruled
    exact .tagsAlone fun name entry configures => absurd configures (unset name entry)

theorem sound_of_ruling (ruled : settings.ruling configured kind = .ok policy)
    (configures : settings.Configures kind name entry) : entry.Sound kind := by
  have outcome := policyOf_ruled settings kind entry
  rw [← ruling_of_configures read configures, ruled] at outcome
  cases outcome with
  | aged _ sound => exact sound
  | tagsAlone _ sound => exact sound

theorem fault_of_ruling (ruled : settings.ruling configured kind = .error failure) (asked : kind ∈ kinds) :
    settings.Fault kinds failure := by
  by_cases set : ∃ name entry, settings.Configures kind name entry
  · obtain ⟨name, entry, configures⟩ := set
    have outcome := policyOf_ruled settings kind entry
    rw [← ruling_of_configures read configures, ruled] at outcome
    cases outcome with
    | unknown given unknown => exact .unknownMode asked configures given unknown
    | ageless asks ageless => exact .ageNotSupported asked configures asks ageless
  · rw [ruling_of_unconfigured read (by simpa using set)] at ruled
    cases ruled

end Configured

theorem resolvable_of_resolvePolicies (resolved : settings.resolvePolicies kinds = .ok policies) :
    settings.Resolvable kinds := by
  obtain ⟨configured, read, filled⟩ := resolvePolicies_eq_ok_iff.mp resolved
  constructor
  case known => exact fun name => known_of_mem_keys read
  case apart =>
    exact fun kind first one second other configures again => (eq_of_configures read configures again).1
  case sound =>
    intro kind asked name entry configures
    obtain ⟨policy, ruled⟩ := (foldlM_addPolicy_eq_ok_iff.mp filled).1 kind asked
    exact sound_of_ruling read ruled configures

theorem isSome_resolvePolicies (resolved : settings.resolvePolicies kinds = .ok policies) (kind : Kind) :
    (policies kind).isSome = true ↔ kind ∈ kinds := by
  obtain ⟨configured, -, filled⟩ := resolvePolicies_eq_ok_iff.mp resolved
  obtain ⟨every, entries⟩ := foldlM_addPolicy_eq_ok_iff.mp filled
  rw [entries kind]
  split
  · rename_i asked
    obtain ⟨policy, ruled⟩ := every kind asked
    simp [ruled, asked, Except.toOption]
  · rename_i unasked
    simp [unasked, PolicyTable.empty]

theorem grants_of_resolvePolicies (resolved : settings.resolvePolicies kinds = .ok policies)
    (found : policies kind = some policy) : settings.Grants kind policy := by
  have asked : kind ∈ kinds := (isSome_resolvePolicies resolved kind).mp (by rw [found]; rfl)
  obtain ⟨configured, read, filled⟩ := resolvePolicies_eq_ok_iff.mp resolved
  obtain ⟨every, entries⟩ := foldlM_addPolicy_eq_ok_iff.mp filled
  obtain ⟨other, ruled⟩ := every kind asked
  rw [entries kind, if_pos asked, ruled] at found
  cases found
  exact grants_of_ruling read ruled

theorem resolvePolicies_eq_error (failed : settings.resolvePolicies kinds = .error failure) :
    settings.Fault kinds failure := by
  cases read : ConfiguredKind.ofEntries settings.kinds.entries with
  | error cause =>
    obtain rfl : cause = failure := by
      unfold resolvePolicies at failed
      rw [read] at failed
      exact Except.error.inj failed
    obtain ⟨before, entry, after, split, refused⟩ := ConfiguredKind.ofEntries_eq_error read
    have stands : entry ∈ settings.kinds.entries := by simp [split]
    -- Entries are read in the order of the dictionary, so the name that was there first is the smaller one.
    rcases refused with ⟨unknown, rfl⟩ | ⟨earlier, member, kind, first, second, rfl⟩
    · exact .unknownKind (List.mem_map_of_mem stands) unknown
    · have ascending := settings.kinds.ascending
      rw [split, List.pairwise_append] at ascending
      have order := ascending.2.2 earlier member entry List.mem_cons_self
      have stood : earlier ∈ settings.kinds.entries := by simp [split, member]
      exact .duplicateKind ⟨stood, first⟩ ⟨stands, second⟩ (Text.Utf8.encode_lt_encode order)
  | ok configured =>
    have filled : kinds.foldlM (settings.addPolicy configured) .empty = .error failure := by
      unfold resolvePolicies at failed
      rwa [read] at failed
    obtain ⟨before, kind, after, table, rfl, -, refused⟩ := exists_of_foldlM_eq_error filled
    rw [addPolicy_eq] at refused
    cases ruled : settings.ruling configured kind with
    | ok policy =>
      rw [ruled] at refused
      cases refused
    | error cause =>
      rw [ruled] at refused
      cases refused
      exact fault_of_ruling read ruled (by simp)

theorem Resolvable.not_fault (resolvable : settings.Resolvable kinds) : ¬ settings.Fault kinds failure := by
  intro fault
  cases fault with
  | unknownKind configured unknown =>
    obtain ⟨kind, known⟩ := resolvable.known _ configured
    cases unknown.symm.trans known
  | duplicateKind earlier later order =>
    rw [resolvable.apart _ _ _ _ _ earlier later] at order
    exact List.lt_irrefl _ order
  | unknownMode asked configured given unknown =>
    obtain ⟨mode, known⟩ := (resolvable.sound _ asked _ _ configured).mode _ given
    cases unknown.symm.trans known
  | ageNotSupported asked configured asks ageless =>
    have aged := (resolvable.sound _ asked _ _ configured).aged asks
    rw [ageless] at aged
    cases aged

theorem resolves_iff :
    (∃ policies, settings.resolvePolicies kinds = .ok policies) ↔ settings.Resolvable kinds := by
  constructor
  · rintro ⟨policies, resolved⟩
    exact resolvable_of_resolvePolicies resolved
  · intro resolvable
    cases resolved : settings.resolvePolicies kinds with
    | ok policies => exact ⟨policies, rfl⟩
    | error failure => exact absurd (resolvePolicies_eq_error resolved) resolvable.not_fault

theorem Resolvable.entry_unique (resolvable : settings.Resolvable kinds) {second : String}
    {one : KindSettings} (configures : settings.Configures kind name entry)
    (again : settings.Configures kind second one) : entry = one := by
  obtain rfl := resolvable.apart _ _ _ _ _ configures again
  have found := Dictionary.get?_of_mem configures.1
  rw [Dictionary.get?_of_mem again.1] at found
  exact (Option.some.inj found).symm

theorem Grants.unique {another : Policy} (resolvable : settings.Resolvable kinds)
    (granted : settings.Grants kind policy) (again : settings.Grants kind another) : policy = another := by
  cases granted with
  | aged configured asks =>
    cases again with
    | aged also _ => rw [resolvable.entry_unique configured also]
    | tagsAlone plain => exact absurd asks (plain _ _ configured)
  | tagsAlone plain =>
    cases again with
    | aged configured asks => exact absurd asks (plain _ _ configured)
    | tagsAlone _ => rfl

/-- Only its own settings and the general threshold give a kind its policy. -/
theorem Grants.congr (threshold : other.maxAgeDays = settings.maxAgeDays)
    (same : ∀ entry, (∃ name, other.Configures kind name entry) ↔
      ∃ name, settings.Configures kind name entry)
    (granted : other.Grants kind policy) : settings.Grants kind policy := by
  cases granted with
  | aged configured asks =>
    obtain ⟨name, there⟩ := (same _).mp ⟨_, configured⟩
    rw [threshold]
    exact .aged there asks
  | tagsAlone plain =>
    refine .tagsAlone fun name entry configures asks => ?_
    obtain ⟨elsewhere, there⟩ := (same entry).mpr ⟨name, configures⟩
    exact plain elsewhere entry there asks

theorem resolvePolicies_eq_some_iff (resolved : settings.resolvePolicies kinds = .ok policies)
    (asked : kind ∈ kinds) : policies kind = some policy ↔ settings.Grants kind policy := by
  constructor
  · exact grants_of_resolvePolicies resolved
  · intro granted
    obtain ⟨given, found⟩ := Option.isSome_iff_exists.mp ((isSome_resolvePolicies resolved kind).mpr asked)
    have resolvable := resolvable_of_resolvePolicies resolved
    rw [found, granted.unique resolvable (grants_of_resolvePolicies resolved found)]

/-- There are policies for the kinds exactly where the settings are in order, and what is said to be wrong
with them otherwise is wrong with them. Then each requested kind, and no other, has the policy that the
settings grant it, whatever else is requested or configured. -/
theorem resolvePolicies_exact (settings : Settings) (kinds : List Kind) :
    ((∃ policies, settings.resolvePolicies kinds = .ok policies) ↔ settings.Resolvable kinds) ∧
    (∀ policies, settings.resolvePolicies kinds = .ok policies →
      (∀ kind, (policies kind).isSome = true ↔ kind ∈ kinds) ∧
      (∀ kind ∈ kinds, ∀ policy, policies kind = some policy ↔ settings.Grants kind policy) ∧
      ∀ (other : Settings) (others : List Kind) (outcome : PolicyTable),
        other.resolvePolicies others = .ok outcome → other.maxAgeDays = settings.maxAgeDays →
        ∀ kind ∈ kinds, kind ∈ others →
          (∀ entry, (∃ name, other.Configures kind name entry) ↔
            ∃ name, settings.Configures kind name entry) →
          outcome kind = policies kind) ∧
    ∀ failure, settings.resolvePolicies kinds = .error failure → settings.Fault kinds failure := by
  refine ⟨resolves_iff, fun policies resolved => ⟨?_, ?_, ?_⟩, fun failure => resolvePolicies_eq_error⟩
  · exact isSome_resolvePolicies resolved
  · exact fun kind asked policy => resolvePolicies_eq_some_iff resolved asked
  · intro other others outcome again threshold kind asked also same
    obtain ⟨policy, found⟩ := Option.isSome_iff_exists.mp ((isSome_resolvePolicies again kind).mpr also)
    have granted := (grants_of_resolvePolicies again found).congr threshold same
    rw [found, (resolvePolicies_eq_some_iff resolved asked).mpr granted]

/-- The two names of one kind are told in the order of their bytes, and not in that of the file. -/
example : let settings : Settings := { kinds := .ofList [("instance", ⟨none, none⟩), ("ec2", ⟨none, none⟩)] }
    settings.resolvePolicies [.image] = .error (.duplicateKind .vmInstance "ec2" "instance") := by
  rfl

end Settings
end Retention
