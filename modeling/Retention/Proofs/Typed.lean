import Retention.Proofs.Readings

/-!
Which documents can be read as settings. Every section that is there is a record, every known key in it that
is there holds a value of its type, and a second account has its role; no key has to be there otherwise, and
unknown keys do not matter.
-/
namespace Retention

namespace Toml

/-- A table, or an array with all the fields. A moment counts as a table without any of them. -/
def IsRecord (names : List String) : Toml → Prop
  | .table _ => True
  | .moment _ => True
  | .array items => names.length ≤ items.length
  | _ => False

theorem isRecord_of_fields? {names : List String} {value : Toml} {fields : List (Option Toml)}
    (found : value.fields? names = some fields) : value.IsRecord names := by
  cases value with
  | table entries => trivial
  | moment spelling => trivial
  | array items => exact (Option.ite_none_right_eq_some.mp found).1
  | str | int | float | bool => cases found

theorem fields?_of_isRecord {names : List String} {value : Toml} (distinct : names.Nodup)
    (shaped : value.IsRecord names) :
    value.fields? names = some (names.map fun name => value.field? names name) := by
  obtain ⟨fields, found⟩ : ∃ fields, value.fields? names = some fields := by
    cases value with
    | table entries => exact ⟨_, rfl⟩
    | moment spelling => exact ⟨_, rfl⟩
    | array items => exact ⟨_, if_pos shaped⟩
    | str | int | float | bool => exact shaped.elim
  rw [found, fields?_eq distinct found]

theorem lookup_of_mem {entries : List (String × Toml)} {entry : String × Toml}
    (apart : (entries.map Prod.fst).Nodup) (member : entry ∈ entries) :
    entries.lookup entry.1 = some entry.2 := by
  obtain ⟨before, after, split⟩ := List.append_of_mem member
  refine List.lookup_eq_some_iff.mpr ⟨before, after, split, fun earlier inside => ?_⟩
  rw [split, List.map_append, List.nodup_append] at apart
  have differs := apart.2.2 _ (List.mem_map_of_mem inside) entry.1 (by simp)
  simpa using differs.symm

theorem exists_optional {α : Type} {read : Toml → Option α} {field : Option Toml}
    (readable : ∀ value ∈ field, (read value).isSome) : ∃ found, optional read field = some found := by
  cases field with
  | none => exact ⟨none, rfl⟩
  | some value =>
    obtain ⟨found, told⟩ := Option.isSome_iff_exists.mp (readable value rfl)
    exact ⟨some found, optional_some told⟩

end Toml

namespace FileSettings

/-- What is there has its type. -/
structure Typed (document : Toml) : Prop where
  whole : document.IsRecord sectionNames
  general : ∀ part ∈ document.field? sectionNames "general", part.IsRecord generalNames
  logging : ∀ part ∈ document.field? sectionNames "logging", part.IsRecord loggingNames
  accounts : ∀ part ∈ document.field? sectionNames "accounts", part.IsRecord accountNames
  executor : ∀ part ∈ document.field? sectionNames "executor", part.IsRecord executorNames
  cleanup : ∀ part ∈ document.field? sectionNames "cleanup", ∃ entries, part = .table entries
  main : ∀ part ∈ inSection "accounts" accountNames "main" document, part.IsRecord ["id"]
  second : ∀ part ∈ inSection "accounts" accountNames "second" document,
    part.IsRecord secondNames ∧ (part.field? secondNames "role_to_assume").isSome
  /-- As an array, an entry has its fields and nothing more. -/
  kinds : ∀ name, ∀ part ∈ kindEntry name document,
    part.IsRecord kindNames ∧ ∀ items, part = .array items → items.length ≤ kindNames.length
  keys : ∀ {α : Type} (setting : Setting α), setting.OfProgram →
    ∀ value ∈ setting.inFile document, (setting.ofToml value).isSome

theorem isRecord_of_sectionFields {names : List String} {part : Option Toml}
    {fields : List (Option Toml)} (found : sectionFields names part = some fields) :
    ∀ value ∈ part, value.IsRecord names := by
  rintro value rfl
  exact Toml.isRecord_of_fields? found

theorem sectionFields_of_isRecord {names : List String} {part : Option Toml} (distinct : names.Nodup)
    (shaped : ∀ value ∈ part, value.IsRecord names) :
    sectionFields names part = some (names.map fun name => part.bind (·.field? names name)) := by
  cases part with
  | none => rfl
  | some value => exact Toml.fields?_of_isRecord distinct (shaped value rfl)

/-- What a record of settings holds was read from a value of its type. -/
theorem exists_of_kept {α : Type} {outer : Option Toml} {read : Toml → Option α} {found : Option α}
    (kept : outer.map read = found.map some) : ∀ value ∈ outer, ∃ one, read value = some one := by
  rintro value rfl
  cases found with
  | none => cases kept
  | some one => exact ⟨one, Option.some.inj kept⟩

theorem isRecord_of_mainId? {account : Option Toml} {found : Option String}
    (read : mainId? account = some found) : ∀ part ∈ account, part.IsRecord ["id"] := by
  obtain ⟨fields, told, -⟩ := Option.bind_eq_some_iff.mp read
  exact isRecord_of_sectionFields told

theorem isRecord_of_second {value : Toml} {account : SecondAccount}
    (read : SecondAccount.ofToml? value = some account) :
    value.IsRecord secondNames ∧ (value.field? secondNames "role_to_assume").isSome := by
  obtain ⟨fields, told, -⟩ := Option.bind_eq_some_iff.mp read
  refine ⟨Toml.isRecord_of_fields? told, ?_⟩
  obtain ⟨role, present, -⟩ := Option.map_eq_some_iff.mp (kept_of_second read).2
  rw [present]
  rfl

theorem isRecord_of_kind {value : Toml} {entry : KindSettings} (read : KindSettings.ofToml? value = some entry) :
    value.IsRecord kindNames ∧ ∀ items, value = .array items → items.length ≤ kindNames.length := by
  obtain ⟨fields, told, read⟩ := Option.bind_eq_some_iff.mp read
  refine ⟨Toml.isRecord_of_fields? told, ?_⟩
  rintro items rfl
  split at read
  case h_2 => cases read
  split at read
  · cases read
  · rename_i short
    match items with
    | [] | [_] | [_, _] => simp [kindNames]
    | first :: second :: third :: rest => exact (short first second third rest rfl).elim

theorem table_of_cleanup? {part : Option Toml} {found : Option UInt64 × Dictionary KindSettings}
    (read : cleanup? part = some found) : ∀ value ∈ part, ∃ entries, value = .table entries := by
  rintro value rfl
  unfold cleanup? at read
  split at read
  · contradiction
  · rename_i entries same
    exact ⟨entries, Option.some.inj same⟩
  · cases read

/-- Where no variable is set, every setting is drawn from the file. -/
theorem readable_of_holds {document : Toml} {file : FileSettings} (holds : Holds document file) {α : Type}
    {setting : Setting α} (own : setting.OfProgram) :
    ∀ value ∈ setting.inFile document, (setting.ofToml value).isSome := by
  rintro value present
  have unset : setting.inEnvironment (fun _ => none) = none := by cases own <;> rfl
  have drawn : setting.Drawn (fun _ => none) document (setting.get (Settings.merge file .none none)) :=
    own.drawn rfl holds
  rw [drawn.ofToml_eq unset present]
  rfl

theorem typed_of_ofToml? {document : Toml} {file : FileSettings} (formed : document.WellFormed)
    (read : ofToml? document = some file) : Typed document := by
  have holds := holds_of_ofToml? formed read
  obtain ⟨_, _, _, _, _, whole, ⟨_, _, _, general, -⟩, ⟨_, _, logging, -⟩,
    ⟨_, _, accounts, main, -⟩, cleanup, ⟨_, _, _, _, executor, -⟩⟩ := ofToml?_eq_some_iff.mp read
  cases Toml.fields?_eq (by decide) whole
  cases sectionFields_eq (by decide) accounts
  exact {
    whole := Toml.isRecord_of_fields? whole
    general := isRecord_of_sectionFields general
    logging := isRecord_of_sectionFields logging
    accounts := isRecord_of_sectionFields accounts
    executor := isRecord_of_sectionFields executor
    cleanup := table_of_cleanup? cleanup
    main := isRecord_of_mainId? main
    second := by
      intro part present
      obtain ⟨account, told⟩ := exists_of_kept holds.second part present
      exact isRecord_of_second told
    kinds := by
      intro name part present
      obtain ⟨entry, told⟩ := exists_of_kept (holds.kinds name) part present
      exact isRecord_of_kind told
    keys := fun _ own => readable_of_holds holds own }

theorem exists_mainId? {account : Option Toml} (shaped : ∀ part ∈ account, part.IsRecord ["id"])
    (readable : ∀ value ∈ account.bind (·.field? ["id"] "id"), value.text?.isSome) :
    ∃ found, mainId? account = some found := by
  obtain ⟨found, told⟩ := Toml.exists_optional readable
  exact ⟨found, Option.bind_eq_some_iff.mpr ⟨_, sectionFields_of_isRecord (by decide) shaped, told⟩⟩

theorem isSome_second {value : Toml} (shaped : value.IsRecord secondNames)
    (full : (value.field? secondNames "role_to_assume").isSome)
    (ids : ∀ id ∈ value.field? secondNames "id", id.text?.isSome)
    (roles : ∀ role ∈ value.field? secondNames "role_to_assume", role.text?.isSome) :
    (SecondAccount.ofToml? value).isSome := by
  obtain ⟨id, idRead⟩ := Toml.exists_optional ids
  obtain ⟨field, present⟩ := Option.isSome_iff_exists.mp full
  obtain ⟨role, roleRead⟩ := Option.isSome_iff_exists.mp (roles field present)
  have read : SecondAccount.ofToml? value = some ⟨id, role⟩ :=
    Option.bind_eq_some_iff.mpr ⟨_, Toml.fields?_of_isRecord (by decide) shaped,
      Option.bind_eq_some_iff.mpr ⟨id, idRead, Option.bind_eq_some_iff.mpr
        ⟨role, Option.bind_eq_some_iff.mpr ⟨field, present, roleRead⟩, rfl⟩⟩⟩
  rw [read]
  rfl

theorem isSome_kind {value : Toml} (shaped : value.IsRecord kindNames)
    (short : ∀ items, value = .array items → items.length ≤ kindNames.length)
    (modes : ∀ mode ∈ value.field? kindNames "mode", mode.text?.isSome)
    (ages : ∀ age ∈ value.field? kindNames "max_age_days", age.word64?.isSome) :
    (KindSettings.ofToml? value).isSome := by
  obtain ⟨mode, modeRead⟩ := Toml.exists_optional modes
  obtain ⟨age, ageRead⟩ := Toml.exists_optional ages
  have read : KindSettings.ofToml? value = some ⟨mode, age⟩ := by
    refine Option.bind_eq_some_iff.mpr ⟨_, Toml.fields?_of_isRecord (by decide) shaped, ?_⟩
    split
    case h_2 other => exact (other _ _ rfl).elim
    rename_i same
    cases same
    split
    · have long := short _ rfl
      simp [kindNames] at long
    · exact Option.bind_eq_some_iff.mpr ⟨mode, modeRead, Option.bind_eq_some_iff.mpr ⟨age, ageRead, rfl⟩⟩
  rw [read]
  rfl

theorem isSome_secondEntry {document : Toml} (typed : Typed document) :
    ∀ part ∈ inSection "accounts" accountNames "second" document, (SecondAccount.ofToml? part).isSome := by
  intro part present
  obtain ⟨shaped, full⟩ := typed.second part present
  refine isSome_second shaped full (fun id found => ?_) fun role found => ?_
  · have under : Setting.secondId.inFile document = some id :=
      Option.bind_eq_some_iff.mpr ⟨part, present, found⟩
    simpa [Setting.secondId, Setting.ofFile] using typed.keys _ .secondId id under
  · have under : Setting.secondRole.inFile document = some role :=
      Option.bind_eq_some_iff.mpr ⟨part, present, found⟩
    simpa [Setting.secondRole, Setting.ofFile] using typed.keys _ .secondRole role under

theorem isSome_kindEntry {document : Toml} (typed : Typed document) (name : String) :
    ∀ part ∈ kindEntry name document, (KindSettings.ofToml? part).isSome := by
  intro part present
  obtain ⟨shaped, short⟩ := typed.kinds name part present
  refine isSome_kind shaped short (fun mode found => ?_) fun age found => ?_
  · have under : (Setting.kindMode name).inFile document = some mode :=
      Option.bind_eq_some_iff.mpr ⟨part, present, found⟩
    simpa [Setting.kindMode, Setting.ofFile] using typed.keys _ (.kindMode name) mode under
  · have under : (Setting.kindMaxAgeDays name).inFile document = some age :=
      Option.bind_eq_some_iff.mpr ⟨part, present, found⟩
    simpa [Setting.kindMaxAgeDays, Setting.ofFile] using typed.keys _ (.kindMaxAgeDays name) age under

theorem exists_cleanup? {document : Toml} (formed : document.WellFormed) (typed : Typed document) :
    ∃ maxAgeDays kinds, cleanup? (document.field? sectionNames "cleanup") = some (maxAgeDays, kinds) := by
  cases present : document.field? sectionNames "cleanup" with
  | none => exact ⟨_, _, rfl⟩
  | some part =>
    obtain ⟨entries, rfl⟩ := typed.cleanup part present
    obtain ⟨apart, -⟩ := Toml.wellFormed_table.mp (Toml.wellFormed_field? formed present)
    have under (key : String) : inCleanup key document = entries.lookup key := by
      rw [inCleanup, present]
      rfl
    have thresholds := typed.keys _ .maxAgeDays
    obtain ⟨maxAgeDays, general⟩ := Toml.exists_optional thresholds
    rw [show Setting.maxAgeDays.inFile document = _ from under thresholdKey] at general
    have each : ∀ entry ∈ entries.filter (·.1 != thresholdKey),
        (do return (entry.1, ← KindSettings.ofToml? entry.2) : Option (String × KindSettings)).isSome := by
      intro entry member
      obtain ⟨inside, other⟩ := List.mem_filter.mp member
      have found : kindEntry entry.1 document = some entry.2 := by
        rw [kindEntry, if_neg (by simpa using other), under, Toml.lookup_of_mem apart inside]
      obtain ⟨settings, told⟩ := Option.isSome_iff_exists.mp (isSome_kindEntry typed entry.1 _ found)
      rw [told]
      rfl
    obtain ⟨kinds, mapped⟩ := Option.isSome_iff_exists.mp (isSome_mapM_iff.mpr each)
    refine ⟨maxAgeDays, .ofList kinds, ?_⟩
    exact Option.bind_eq_some_iff.mpr ⟨maxAgeDays, general, Option.bind_eq_some_iff.mpr ⟨kinds, mapped, rfl⟩⟩

theorem exists_file_of_typed {document : Toml} (formed : document.WellFormed) (typed : Typed document) :
    ∃ file, ofToml? document = some file := by
  have keys {α : Type} (setting : Setting α) (own : setting.OfProgram) := typed.keys setting own
  obtain ⟨regions, regionsRead⟩ := Toml.exists_optional (keys _ .regions)
  obtain ⟨allRegions, allRegionsRead⟩ := Toml.exists_optional (keys _ .allRegions)
  obtain ⟨workers, workersRead⟩ := Toml.exists_optional (keys _ .workers)
  obtain ⟨console, consoleRead⟩ := Toml.exists_optional (keys _ .logToConsole)
  obtain ⟨log, logRead⟩ := Toml.exists_optional (keys _ .logToFile)
  obtain ⟨timeout, timeoutRead⟩ := Toml.exists_optional (keys _ .hookSeconds)
  obtain ⟨waitTimeout, waitTimeoutRead⟩ := Toml.exists_optional (keys _ .waitSeconds)
  obtain ⟨mainId, mainRead⟩ := exists_mainId? typed.main fun value found => by
    simpa [Setting.mainId, Setting.ofFile] using keys _ .mainId value found
  obtain ⟨second, secondRead⟩ := Toml.exists_optional (isSome_secondEntry typed)
  obtain ⟨command, commandRead⟩ : ∃ command, Toml.optional Toml.text?
      (inSection "executor" executorNames "command" document) = some command :=
    Toml.exists_optional fun value found => by
      simpa [Setting.hookCommand, Setting.ofFile] using keys _ .hookCommand value found
  obtain ⟨maxAgeDays, kinds, cleanup⟩ := exists_cleanup? formed typed
  let file : FileSettings := {
    regions, allRegions, workers, mainId, second, maxAgeDays, kinds
    logToConsole := console
    logToFile := log
    hookCommand := command.bind command?
    hookSeconds := timeout
    waitSeconds := waitTimeout }
  exact ⟨file, ofToml?_eq_some_iff.mpr ⟨_, _, _, _, _, Toml.fields?_of_isRecord (by decide) typed.whole,
    ⟨_, _, _, sectionFields_of_isRecord (by decide) typed.general, regionsRead, allRegionsRead, workersRead⟩,
    ⟨_, _, sectionFields_of_isRecord (by decide) typed.logging, consoleRead, logRead⟩,
    ⟨_, _, sectionFields_of_isRecord (by decide) typed.accounts, mainRead, secondRead⟩, cleanup,
    ⟨_, _, _, _, sectionFields_of_isRecord (by decide) typed.executor, commandRead, rfl, timeoutRead,
      waitTimeoutRead⟩⟩⟩

end FileSettings
end Retention
