import Retention.Proofs.Typed

/-!
Loading settings. They are loaded unless the file, a variable, or the number of workers is at fault, and then
each setting has the value that its own variable, its own key, or the standard gives it.
-/
namespace Retention
namespace Settings

/-- What was found at the path denotes the document. Where there is nothing, and there need not be, that is a
document without any key. -/
inductive Denotes (given : Bool) : Except StorageError FileNode → Toml → Prop
  | file {node text document} (read : node.text = .ok text) (parsed : Toml.parse? text = some document)
      (typed : FileSettings.Typed document) : Denotes given (.ok node) document
  | none {cause} (free : given = false) : Denotes given (.error cause) (.table [])

/-- The settings have each value from its own places, and there is a worker. -/
structure Merged (path : Path) (found : Except StorageError FileNode) (environment : Environment)
    (document : Toml) (settings : Settings) : Prop where
  drawn : ∀ {α : Type} (setting : Setting α), setting.OfProgram →
    setting.Drawn environment document (setting.get settings)
  workers : settings.workers ≠ 0
  path : settings.path = found.toOption.map fun _ => path

/-- What is wrong where no settings can be loaded. -/
inductive Refused (given : Bool) (path : Path) (found : Except StorageError FileNode)
    (environment : Environment) : SettingsError → Prop
  | notFound {cause} (asked : given = true) (absent : found = .error cause) :
      Refused given path found environment (.notFound path)
  | unreadable {node cause} (stands : found = .ok node) (unread : node.text = .error cause) :
      Refused given path found environment (.unreadable path cause)
  | malformed {node text} (stands : found = .ok node) (read : node.text = .ok text)
      (untyped : ∀ document, Toml.parse? text = some document → ¬ FileSettings.Typed document) :
      Refused given path found environment (.malformed path)
  | badVariable {cause} (misread : VariableSettings.Misread environment cause) :
      Refused given path found environment (.badVariable cause)
  | noWorkers {document} (denotes : Denotes given found document)
      (drawn : Setting.workers.Drawn environment document 0) :
      Refused given path found environment .noWorkers

variable {given : Bool} {path : Path} {found : Except StorageError FileNode} {environment : Environment}
  {document : Toml} {settings other : Settings} {failure : SettingsError}

theorem Denotes.unique {again : Toml} (denotes : Denotes given found document)
    (twice : Denotes given found again) : document = again := by
  cases denotes with
  | none _ =>
    cases twice
    rfl
  | file read parsed _ =>
    cases twice with
    | file reread reparsed _ =>
      cases read.symm.trans reread
      exact Option.some.inj (parsed.symm.trans reparsed)

/-- Both fields of the second account make up the account. -/
theorem eq_of_second {one two : Option SecondAccount} (ids : one.bind (·.id) = two.bind (·.id))
    (roles : one.map (·.role) = two.map (·.role)) : one = two := by
  rcases one with _ | ⟨id, role⟩ <;> rcases two with _ | ⟨id', role'⟩ <;> simp_all

/-- Both fields of an entry, and whether there is one, make up the entry. -/
theorem eq_of_kind {one two : Option KindSettings} (listed : one.isSome = two.isSome)
    (modes : one.bind (·.mode) = two.bind (·.mode))
    (ages : one.bind (·.maxAgeDays) = two.bind (·.maxAgeDays)) : one = two := by
  rcases one with _ | ⟨mode, days⟩ <;> rcases two with _ | ⟨mode', days'⟩ <;> simp_all

/-- The settings of the program and the path make up the settings. -/
theorem eq_of_get (path : settings.path = other.path)
    (same : ∀ {α : Type} (setting : Setting α), setting.OfProgram →
      setting.get settings = setting.get other) : settings = other := by
  have second : settings.second = other.second := eq_of_second (same _ .secondId) (same _ .secondRole)
  have kinds : settings.kinds = other.kinds := Dictionary.ext_get? fun name =>
    eq_of_kind (same _ (.kindListed name)) (same _ (.kindMode name)) (same _ (.kindMaxAgeDays name))
  have regions : settings.regions = other.regions := same _ .regions
  have allRegions : settings.allRegions = other.allRegions := same _ .allRegions
  have workers : settings.workers = other.workers := same _ .workers
  have console : settings.logToConsole = other.logToConsole := same _ .logToConsole
  have file : settings.logToFile = other.logToFile := same _ .logToFile
  have mainId : settings.mainId = other.mainId := same _ .mainId
  have maxAgeDays : settings.maxAgeDays = other.maxAgeDays := same _ .maxAgeDays
  have hookCommand : settings.hookCommand = other.hookCommand := same _ .hookCommand
  have hookSeconds : settings.hookSeconds = other.hookSeconds := same _ .hookSeconds
  have waitSeconds : settings.waitSeconds = other.waitSeconds := same _ .waitSeconds
  cases settings
  cases other
  congr

theorem Merged.unique (merged : Merged path found environment document settings)
    (again : Merged path found environment document other) : settings = other :=
  eq_of_get (merged.path.trans again.path.symm) fun setting own =>
    (merged.drawn setting own).unique (again.drawn setting own)

theorem Denotes.holds (denotes : Denotes given found document) (path : Path) :
    ∃ file, readFile given path found = .ok (file, found.toOption.map fun _ => path) ∧
      FileSettings.Holds document file := by
  cases denotes with
  | none free =>
    subst free
    have formed : (Toml.table []).WellFormed := .table .nil (by simp)
    exact ⟨.empty, rfl, FileSettings.holds_of_ofToml? formed rfl⟩
  | @file node text document read parsed typed =>
    have formed := Toml.wellFormed_of_parse? parsed
    obtain ⟨file, told⟩ := FileSettings.exists_file_of_typed formed typed
    have done : FileSettings.read path node = .ok file :=
      FileSettings.read_eq_ok_iff.mpr ⟨text, document, read, parsed, told⟩
    refine ⟨file, ?_, FileSettings.holds_of_ofToml? formed told⟩
    rw [readFile, done]
    rfl

/-- What was found denotes a document, or else is refused. -/
theorem denotes_or_refused (given : Bool) (path : Path) (found : Except StorageError FileNode)
    (environment : Environment) :
    (∃ document, Denotes given found document) ∨
      ∃ failure, readFile given path found = .error failure ∧
        Refused given path found environment failure := by
  cases found with
  | error cause =>
    cases given with
    | false => exact .inl ⟨_, .none rfl⟩
    | true => exact .inr ⟨_, rfl, .notFound rfl rfl⟩
  | ok node =>
    have outcome : readFile given path (.ok node) = (FileSettings.read path node).map (·, some path) := rfl
    cases written : node.text with
    | error cause =>
      refine .inr ⟨_, ?_, .unreadable rfl written⟩
      rw [outcome, FileSettings.read, written]
      rfl
    | ok text =>
      cases read : (Toml.parse? text).bind FileSettings.ofToml? with
      | none =>
        refine .inr ⟨_, ?_, .malformed rfl written fun document parsed typed => ?_⟩
        · rw [outcome, FileSettings.read_eq_malformed written read]
          rfl
        · obtain ⟨file, told⟩ :=
            FileSettings.exists_file_of_typed (Toml.wellFormed_of_parse? parsed) typed
          rw [parsed, Option.bind_some, told] at read
          cases read
      | some file =>
        obtain ⟨document, parsed, told⟩ := Option.bind_eq_some_iff.mp read
        have typed := FileSettings.typed_of_ofToml? (Toml.wellFormed_of_parse? parsed) told
        exact .inl ⟨document, .file written parsed typed⟩

theorem load_eq (given : Bool) (path : Path) (found : Except StorageError FileNode)
    (environment : Environment) :
    load given path found environment = match readFile given path found with
      | .error failure => .error failure
      | .ok (file, place) =>
        match VariableSettings.read environment with
        | .error cause => .error (.badVariable cause)
        | .ok values =>
          if (merge file values place).workers = 0 then .error .noWorkers
          else .ok (merge file values place) := by
  unfold load
  cases readFile given path found with
  | error failure => rfl
  | ok told =>
    cases VariableSettings.read environment <;> rfl

/-- Settings are loaded, and are the merged ones, or else something is refused. -/
theorem merged_or_refused (given : Bool) (path : Path) (found : Except StorageError FileNode)
    (environment : Environment) :
    (∃ settings document, load given path found environment = .ok settings ∧
      Denotes given found document ∧ Merged path found environment document settings) ∨
      ∃ failure, load given path found environment = .error failure ∧
        Refused given path found environment failure := by
  rw [load_eq]
  obtain ⟨document, denotes⟩ | ⟨failure, failed, refused⟩ :=
    denotes_or_refused given path found environment
  case inr => exact .inr ⟨failure, by rw [failed], refused⟩
  obtain ⟨file, done, holds⟩ := denotes.holds path
  rw [done]
  cases read : VariableSettings.read environment with
  | error cause => exact .inr ⟨_, rfl, .badVariable (VariableSettings.misread_of_read read)⟩
  | ok values =>
    have drawn : ∀ {α : Type} (setting : Setting α), setting.OfProgram → setting.Drawn environment document
        (setting.get (merge file values (found.toOption.map fun _ => path))) :=
      fun _ own => own.drawn read holds
    by_cases none : (merge file values (found.toOption.map fun _ => path)).workers = 0
    · have zero : Setting.workers.Drawn environment document
          (merge file values (found.toOption.map fun _ => path)).workers := drawn _ .workers
      rw [none] at zero
      exact .inr ⟨_, if_pos none, .noWorkers denotes zero⟩
    · exact .inl ⟨_, document, if_neg none, denotes, drawn, none, rfl⟩

theorem exists_boolean {name : String} (own : name ∈ VariableSettings.booleanNames) :
    ∃ get inFile standard, (Setting.boolean get name inFile standard).OfProgram := by
  simp only [VariableSettings.booleanNames, List.mem_cons, List.not_mem_nil, or_false] at own
  rcases own with rfl | rfl | rfl
  · exact ⟨_, _, _, .allRegions⟩
  · exact ⟨_, _, _, .logToConsole⟩
  · exact ⟨_, _, _, .logToFile⟩

theorem exists_number {name : String} (own : name ∈ VariableSettings.numberNames) :
    ∃ get inFile standard, (Setting.number get name inFile standard).OfProgram := by
  simp only [VariableSettings.numberNames, List.mem_cons, List.not_mem_nil, or_false] at own
  rcases own with rfl | rfl
  · exact ⟨_, _, _, .maxAgeDays⟩
  · exact ⟨_, _, _, .workers⟩

theorem Merged.not_misread {cause : VariableError}
    (merged : Merged path found environment document settings)
    (misread : VariableSettings.Misread environment cause) : False := by
  cases misread with
  | boolean own set unread =>
    obtain ⟨get, inFile, standard, offered⟩ := exists_boolean own
    have read := (merged.drawn _ offered).ofText_eq set
    dsimp only [Setting.boolean] at read
    cases unread.symm.trans read
  | number own set unread =>
    obtain ⟨get, inFile, standard, offered⟩ := exists_number own
    have read := (merged.drawn _ offered).ofText_eq set
    dsimp only [Setting.number] at read
    rw [Text.word64?, unread] at read
    cases read

theorem Merged.not_refused (merged : Merged path found environment document settings)
    (denotes : Denotes given found document) (refused : Refused given path found environment failure) :
    False := by
  cases refused with
  | notFound asked absent =>
    subst absent
    cases denotes with
    | none free => cases asked.symm.trans free
  | unreadable stands unread =>
    subst stands
    cases denotes with
    | file read _ _ => cases unread.symm.trans read
  | malformed stands read untyped =>
    subst stands
    cases denotes with
    | file reread parsed typed =>
      cases read.symm.trans reread
      exact untyped _ parsed typed
  | badVariable misread => exact merged.not_misread misread
  | noWorkers twice drawn =>
    cases denotes.unique twice
    exact merged.workers ((merged.drawn _ .workers).unique drawn)

theorem load_eq_ok_iff : load given path found environment = .ok settings ↔
    ∃ document, Denotes given found document ∧ Merged path found environment document settings := by
  obtain ⟨loaded, document, done, denotes, merged⟩ | ⟨failure, failed, refused⟩ :=
    merged_or_refused given path found environment
  · rw [done, Except.ok.injEq]
    constructor
    · rintro rfl
      exact ⟨document, denotes, merged⟩
    · rintro ⟨again, twice, other⟩
      cases denotes.unique twice
      exact merged.unique other
  · rw [failed]
    refine ⟨fun loaded => (by cases loaded), fun ⟨document, denotes, merged⟩ => ?_⟩
    exact (merged.not_refused denotes refused).elim

theorem refused_of_load (failed : load given path found environment = .error failure) :
    Refused given path found environment failure := by
  obtain ⟨settings, document, done, -⟩ | ⟨failure, same, refused⟩ :=
    merged_or_refused given path found environment
  · cases failed.symm.trans done
  · cases failed.symm.trans same
    exact refused

theorem exists_error_of_refused (refused : Refused given path found environment failure) :
    ∃ failure, load given path found environment = .error failure := by
  obtain ⟨settings, document, -, denotes, merged⟩ | ⟨failure, failed, -⟩ :=
    merged_or_refused given path found environment
  · exact (merged.not_refused denotes refused).elim
  · exact ⟨failure, failed⟩

/-- Settings are loaded exactly where nothing is refused, and then each is what its own variable says, or
else its own key, or else the standard. Whatever else differs between two loads, a setting with the same text
of its variable and the same value under its key is the same. -/
theorem load_exact (given : Bool) (path : Path) (found : Except StorageError FileNode)
    (environment : Environment) :
    (∀ settings, load given path found environment = .ok settings ↔
      ∃ document, Denotes given found document ∧ Merged path found environment document settings) ∧
    (∀ failure, load given path found environment = .error failure →
      Refused given path found environment failure) ∧
    ((∃ failure, load given path found environment = .error failure) ↔
      ∃ failure, Refused given path found environment failure) ∧
    ∀ given' path' found' environment' document document' settings settings',
      Denotes given found document → load given path found environment = .ok settings →
      Denotes given' found' document' → load given' path' found' environment' = .ok settings' →
      ∀ {α : Type} (setting : Setting α), setting.OfProgram →
        setting.inEnvironment environment = setting.inEnvironment environment' →
        setting.inFile document = setting.inFile document' →
        setting.get settings = setting.get settings' := by
  refine ⟨fun settings => load_eq_ok_iff, fun failure => refused_of_load, ⟨?_, ?_⟩, ?_⟩
  · rintro ⟨failure, failed⟩
    exact ⟨failure, refused_of_load failed⟩
  · rintro ⟨failure, refused⟩
    exact exists_error_of_refused refused
  · intro given' path' found' environment' document document' settings settings' denotes loaded denotes'
      loaded' α setting own sameText sameKey
    obtain ⟨again, twice, merged⟩ := load_eq_ok_iff.mp loaded
    obtain ⟨again', twice', merged'⟩ := load_eq_ok_iff.mp loaded'
    cases denotes.unique twice
    cases denotes'.unique twice'
    exact ((merged.drawn setting own).transfer sameText sameKey).unique (merged'.drawn setting own)

/-- The variable goes before the general threshold, and leaves the one of a kind as it is. -/
example : (load false ⟨[]⟩
    (.ok (.file (Text.Utf8.encode "[cleanup]\nmax_age_days = 9\n[cleanup.ebs]\nmax_age_days = 20\n")))
    (fun name => if name = "TAGSWEEP_MAX_AGE_DAYS" then some (Text.Utf8.encode " 7 ") else none)).toOption.map
      (fun settings => (settings.maxAgeDays, settings.kinds.get? "ebs")) =
    some (7, some ⟨none, some 20⟩) := by decide +kernel

end Settings
end Retention
