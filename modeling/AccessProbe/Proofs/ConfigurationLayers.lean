import AccessProbe.Proofs.SettingsFile

/-! The layers of a configuration: command line, configuration file, defaults. -/

namespace AccessProbe

namespace Settings

/-- A configuration file has these settings: its text parses, is a single document, and that document holds
them. -/
def HeldIn (settings : Settings) (bytes : List UInt8) : Prop :=
  settings.HeldBy (Yaml.Text.ofBytes bytes).document ∧ (Yaml.Text.ofBytes bytes).document.failure = none ∧
    (Yaml.Text.ofBytes bytes).alone = true

/-- Reading a file succeeds with exactly the settings that it holds. -/
theorem ofBytes_eq_ok_iff {bytes : List UInt8} {settings : Settings} :
    ofBytes bytes = .ok settings ↔ settings.HeldIn bytes := by
  rw [ofBytes, Yaml.read_eq_ok_iff, ofDocument_eq_ok_iff, HeldIn]

theorem orElse_empty (settings : Settings) : settings.orElse empty = settings := by
  simp [orElse, empty]

end Settings

namespace Configuration

variable {files : Files} {given filling : Settings} {config : Configuration}

/-- The settings that fill those given: none without a configuration file, else those of the file. -/
inductive Fills (files : Files) (given : Settings) : Settings → Prop where
  /-- No configuration file is named. -/
  | nothing (unnamed : given.config = none) : Fills files given .empty
  /-- The configuration file can be opened and holds these settings. -/
  | file {path : String} {bytes : List UInt8} {filling : Settings} (named : given.config = some path)
    (opened : files.entry path = .ok (.content bytes)) (held : filling.HeldIn bytes) : Fills files given filling

/-- Loading the configuration file succeeds with exactly the settings that it holds. -/
theorem settingsIn_eq_ok_iff {path : String} : settingsIn files path = .ok filling ↔
    ∃ bytes, files.entry path = .ok (.content bytes) ∧ filling.HeldIn bytes := by
  simp only [← Settings.ofBytes_eq_ok_iff, settingsIn, readContent]
  -- The path may name no file, a file or a directory.
  rcases files.entry path with cause | bytes | _
  · simp
  · cases read : Settings.ofBytes bytes with
    | error cause => simp [FileEntry.read, read]
    | ok settings => simp [FileEntry.read, read]
  · simp [FileEntry.read]

/-- Merging succeeds with the settings given, filled with those of the configuration file. -/
theorem merged_eq_ok_iff {settings : Settings} : merged files given = .ok settings ↔
    ∃ filling, Fills files given filling ∧ settings = given.orElse filling := by
  -- Without a configuration file nothing is filled in, with one its settings are.
  unfold merged
  cases named : given.config with
  | none =>
    simp only [Except.ok.injEq]
    constructor
    · rintro rfl
      exact ⟨.empty, .nothing named, (Settings.orElse_empty _).symm⟩
    · rintro ⟨filling, filled, rfl⟩
      cases filled with
      | nothing => exact (Settings.orElse_empty _).symm
      | file other => cases named.symm.trans other
  | some path =>
    have fills (filling : Settings) : Fills files given filling ↔ settingsIn files path = .ok filling := by
      rw [settingsIn_eq_ok_iff]
      constructor
      · intro filled
        cases filled with
        | nothing unnamed => cases named.symm.trans unnamed
        | file other opened held =>
          cases named.symm.trans other
          exact ⟨_, opened, held⟩
      · rintro ⟨bytes, opened, held⟩
        exact .file named opened held
    simp only [fills]
    cases settingsIn files path with
    | error cause => simp [Except.map]
    | ok settings => simp [Except.map, eq_comm]

/-- The default target. -/
def standardTarget : Url := ⟨"http", "", none, some (.domain "localhost"), some 8080, .segments [""], none, none⟩

/-- The default target is a valid URL. -/
theorem readTarget_defaultTarget : readTarget defaultTarget = .ok standardTarget := by
  -- The parser is evaluated on the default target; errors of it have no decidable equality, so only the URL
  -- is compared.
  have read : (readTarget defaultTarget).toOption = some standardTarget := by decide +kernel
  cases made : readTarget defaultTarget with
  | error cause =>
    rw [made] at read
    cases read
  | ok url =>
    rw [made] at read
    exact congrArg Except.ok (Option.some.inj read)

/-- Settings with the defaults for those that are missing. -/
def withDefaults (settings : Settings) : Configuration where
  target := settings.target.getD standardTarget
  login := settings.login.getD defaultLogin
  password := settings.password.getD defaultPassword
  header := settings.header
  requestTimeout := settings.requestTimeout
  logLevel := settings.logLevel.getD .info

/-- Settings make a configuration with their defaults, unless the login is empty. -/
theorem ofSettings_eq (settings : Settings) : ofSettings settings =
    if settings.login.getD defaultLogin = "" then .error .emptyLogin else .ok (withDefaults settings) := by
  -- The target is valid in either case, which leaves the login.
  unfold ofSettings
  cases named : settings.target with
  | none => simp only [Option.elim, readTarget_defaultTarget, withDefaults, named, Option.getD_none]
  | some url => simp only [Option.elim, withDefaults, named, Option.getD_some]

/-- A configuration is loaded exactly if the settings can be filled and the login is not empty. -/
theorem load_eq_ok_iff : load files given = .ok config ↔
    ∃ filling, Fills files given filling ∧ ofSettings (given.orElse filling) = .ok config := by
  -- Loading is merging followed by `ofSettings`.
  unfold load
  constructor
  · intro loaded
    obtain ⟨settings, all, made⟩ := bind_eq_ok_iff.mp loaded
    obtain ⟨filling, filled, rfl⟩ := merged_eq_ok_iff.mp all
    exact ⟨filling, filled, made⟩
  · rintro ⟨filling, filled, made⟩
    rw [merged_eq_ok_iff.mpr ⟨filling, filled, rfl⟩]
    exact made

/-- Once the settings are filled, only the login can fail. -/
theorem load_of_fills (filled : Fills files given filling) :
    load files given = ofSettings (given.orElse filling) := by
  rw [load, merged_eq_ok_iff.mpr ⟨filling, filled, rfl⟩]
  rfl

/-- The value of the target key is missing or a string that `readTarget` accepts. -/
theorem readTargetValue_eq_ok {start : Yaml.Mark} {path : Option String} {document : Yaml.Document}
    {node : Yaml.Node} {found : Option Url} (read : Settings.readTargetValue start path document node = .ok found) :
    Yaml.isMissing (document.target node) = .ok true ∨
      ∃ text url, document.text? (document.target node) = some text ∧ readTarget text = .ok url ∧
        found = some url := by
  -- The value is read as an optional string first, and a string then as a URL.
  obtain ⟨text, value, accepted⟩ := bind_eq_ok_iff.mp read
  unfold Yaml.readOption at value
  cases missing : Yaml.isMissing (document.target node) with
  | error cause => simp [missing] at value
  | ok absent =>
    cases absent with
    | true => exact .inl rfl
    | false =>
      -- The value is present, so it must be a string with a valid URL.
      simp only [missing] at value
      cases spelled : Yaml.readString "a string" path document (document.target node) with
      | error cause =>
        rw [spelled] at value
        cases value
      | ok name =>
        rw [spelled] at value
        obtain rfl := Except.ok.inj value
        simp only at accepted
        split at accepted
        · rename_i url valid
          exact .inr ⟨name, url, Yaml.readString_eq_ok_iff.mp spelled, valid, (Except.ok.inj accepted).symm⟩
        · cases accepted

/-- How a configuration depends on the settings given and the configuration file. -/
structure ComesInLayers (files : Files) (given : Settings) : Prop where
  /-- It loads if and only if no file is named or the file can be opened and holds settings, and the login is
  not empty. -/
  loads_iff : (∃ config, load files given = .ok config) ↔
    ∃ filling, Fills files given filling ∧ (given.login.or filling.login).getD "python3" ≠ ""
  /-- Each setting is the one given, else that of the file, else the default. -/
  values : ∀ {filling : Settings} {config : Configuration}, Fills files given filling →
    load files given = .ok config →
    readTarget "http://localhost:8080" = .ok standardTarget ∧
    config.target = (given.target.or filling.target).getD standardTarget ∧
    config.login = (given.login.or filling.login).getD "python3" ∧
    config.password = (given.password.or filling.password).getD "python3password" ∧
    config.header = given.header.or filling.header ∧
    config.timeLimit.map (fun span => (span.seconds, span.millis)) =
      (given.requestTimeout.or filling.requestTimeout).map (fun count => (count / 1000, count % 1000)) ∧
    config.logLevel = (given.logLevel.or filling.logLevel).getD .info
  /-- A file that holds settings is blank or a mapping with distinct keys among the six, whose target is
  missing or a valid URL. -/
  file : ∀ {bytes : List UInt8} {filling : Settings}, filling.HeldIn bytes →
    let document := (Yaml.Text.ofBytes bytes).document
    document.IsBlank ∨ ∃ tag start nodes entries, document.nodes = ⟨.mappingStart tag, start⟩ :: nodes ∧
      Yaml.mappingEntries? nodes = some entries ∧
      (entries.map fun entry => document.text? entry.1).Nodup ∧
      (∀ entry ∈ entries, ∃ name ∈ ["target", "login", "password", "header", "request_timeout", "log_level"],
        document.text? entry.1 = some name) ∧
      ∀ entry ∈ entries, document.text? entry.1 = some "target" →
        Yaml.isMissing (document.target entry.2) = .ok true ∨
          ∃ text url, document.text? (document.target entry.2) = some text ∧ readTarget text = .ok url ∧
            filling.target = some url
  /-- A file that can't be opened or holds no settings is an error, whatever else is given. -/
  badFile : ∀ {path : String}, given.config = some path →
    (∀ (bytes : List UInt8) (filling : Settings), files.entry path = .ok (.content bytes) →
      ¬ filling.HeldIn bytes) →
    ∃ cause, load files given = .error cause
  /-- An empty login on the command line is an error, whatever the file holds. -/
  emptyLogin : given.login = some "" → ∃ cause, load files given = .error cause
  /-- A login on the command line replaces that of the file, even an empty one. -/
  givenLogin : ∀ {filling : Settings} {login : String}, Fills files given filling →
    given.login = some login → login ≠ "" → ∃ config, load files given = .ok config ∧ config.login = login
  /-- With all six settings given, the content of the file has no influence, nor which file it is. -/
  complete : given.target.isSome → given.login.isSome → given.password.isSome → given.header.isSome →
    given.requestTimeout.isSome → given.logLevel.isSome →
    ∀ {filling otherFilling : Settings} {others : Files} {config : Option String}, Fills files given filling →
    Fills others { given with config } otherFilling →
    load files given = load others { given with config }

/-- Each setting comes from the first of three layers that has it: command line, configuration file, defaults.
A file must be valid as a whole even if none of its settings is used, and the login must not be empty wherever
it comes from. -/
theorem load_comes_in_layers (files : Files) (given : Settings) : ComesInLayers files given where
  loads_iff := by
    simp only [load_eq_ok_iff, ofSettings_eq]
    constructor
    · rintro ⟨config, filling, filled, made⟩
      refine ⟨filling, filled, fun empty => ?_⟩
      rw [if_pos (by simpa [Settings.orElse, defaultLogin] using empty)] at made
      cases made
    · rintro ⟨filling, filled, login⟩
      refine ⟨withDefaults (given.orElse filling), filling, filled, ?_⟩
      rw [if_neg (by simpa [Settings.orElse, defaultLogin] using login)]
  values := by
    intro filling config filled loaded
    rw [load_of_fills filled, ofSettings_eq] at loaded
    split at loaded
    · cases loaded
    · rw [← Except.ok.inj loaded]
      refine ⟨readTarget_defaultTarget, rfl, rfl, rfl, rfl, ?_, rfl⟩
      simp only [timeLimit, Settings.orElse, Option.map_map]
      rfl
  file := by
    rintro bytes filling ⟨⟨blank, _⟩ | ⟨tag, start, nodes, entries, begins, ends, spells⟩, _, _⟩
    · exact .inl blank
    · refine .inr ⟨tag, start, nodes, entries, begins, ends, spells.once, fun entry member => ?_,
        fun entry member key => ?_⟩
      · obtain ⟨field, named⟩ := spells.keys entry member
        exact ⟨field.key, by cases field <;> decide, named⟩
      · -- The keys are distinct, so this entry is the one that the target is read from.
        have named : Settings.names (Yaml.Text.ofBytes bytes).document .target entry := key
        exact readTargetValue_eq_ok (spells.value_of_mem member named)
  badFile := by
    intro path named bad
    cases loaded : load files given with
    | error cause => exact ⟨cause, rfl⟩
    | ok config =>
      obtain ⟨filling, filled, _⟩ := load_eq_ok_iff.mp loaded
      cases filled with
      | nothing unnamed => cases named.symm.trans unnamed
      | file other opened held =>
        cases named.symm.trans other
        exact absurd held (bad _ _ opened)
  emptyLogin := by
    intro empty
    cases loaded : load files given with
    | error cause => exact ⟨cause, rfl⟩
    | ok config =>
      obtain ⟨filling, _, made⟩ := load_eq_ok_iff.mp loaded
      rw [ofSettings_eq, if_pos (by simp [Settings.orElse, empty])] at made
      cases made
  givenLogin := by
    intro filling login filled named nonempty
    refine ⟨withDefaults (given.orElse filling), ?_, by simp [withDefaults, Settings.orElse, named]⟩
    rw [load_of_fills filled, ofSettings_eq, if_neg (by simpa [Settings.orElse, named] using nonempty)]
  complete := by
    intro target login password header requestTimeout logLevel filling otherFilling others config filled otherFilled
    -- All six settings are given, and the path of the configuration file is not part of a configuration.
    rw [load_of_fills filled, load_of_fills otherFilled]
    simp only [ofSettings_eq, withDefaults, Settings.orElse, Option.or_of_isSome, target, login, password, header,
      requestTimeout, logLevel]

/-- A login on the command line replaces an empty one in the file. -/
example : (load [("a.yaml", .content (Utf8.encode "login: ''\nrequest_timeout: 1500".toList))]
    ⟨some "a.yaml", none, some "agent", none, none, none, none⟩).toOption.map (fun config =>
      (config.login, config.timeLimit)) = some ("agent", some ⟨1, 500, by decide⟩) := by decide +kernel

end Configuration

end AccessProbe
