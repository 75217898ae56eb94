import AccessProbe.Proofs.CommandLine.Precedence
import AccessProbe.Proofs.ConfigurationLayers
import AccessProbe.Proofs.SettingsText

/-! Settings give the same configuration as options and in a configuration file. -/

namespace AccessProbe.CommandLine

/-- The configuration that a command line leads to, if there is one. -/
def configuration? (files : Files) (env : List (String × String)) (args : List String) : Option Configuration :=
  match parse env args with
  | .ok (.run _ given) => (Configuration.load files given).toOption
  | _ => none

namespace Flag

variable {env : List (String × String)} {first second : Flag → Option String}

/-- Merging the settings of two sources gives those of both, if no option has a value in both. -/
theorem orElse_settingsOf (apart : ∀ flag, first flag = none ∨ second flag = none) :
    (settingsOf first).orElse (settingsOf second) = settingsOf fun flag => (first flag).or (second flag) := by
  -- Each setting is bound from the value of its option, which only one source has.
  have bound {α : Type} (flag : Flag) (read : String → Option α) :
      ((first flag).bind read).or ((second flag).bind read) = ((first flag).or (second flag)).bind read := by
    rcases apart flag with none | none <;> simp [none]
  simp only [settingsOf, Settings.orElse, bound]

/-- The check of the variables does not depend on options whose variable is not set. -/
theorem refusal?_apart (apart : ∀ flag, first flag = none ∨ flag.inEnvironment? env = none) :
    Flag.refusal? env first = Flag.refusal? env fun _ => none := by
  -- For each option either it is not given or its variable is not set.
  funext flag
  rcases apart flag with none | unset
  · simp only [refusal?, none]
  · rw [refusal?_shadowed (.inl unset), refusal?_shadowed (.inl unset)]

/-- The path of the configuration file is not part of a configuration. -/
theorem ofSettings_settingsOf_congr (same : ∀ flag, flag ≠ .config → first flag = second flag) :
    Configuration.ofSettings (settingsOf first) = Configuration.ofSettings (settingsOf second) := by
  -- The two settings differ in that path only, which `ofSettings` does not read.
  have settings : settingsOf first = { settingsOf second with config := first .config } := by
    simp [settingsOf, same]
  rw [settings]
  rfl

end Flag

variable {files : Files} {env : List (String × String)} {options : List (Flag × String)} {task : Task}
  {args : List String} {path : String}

/-- Without a configuration file the configuration is that of the settings given. -/
theorem load_unnamed {given : Settings} (unnamed : given.config = none) :
    Configuration.load files given = Configuration.ofSettings given := by
  -- Nothing is merged.
  rw [Configuration.load, Configuration.merged, unnamed]
  rfl

/-- With a configuration file it is that of the settings given, merged with those of the file. -/
theorem load_named {given : Settings} {bytes : List UInt8} (named : given.config = some path)
    (stored : files.entry path = .ok (.content bytes)) :
    (Configuration.load files given).toOption = (Settings.ofBytes bytes).toOption.bind fun filling =>
      (Configuration.ofSettings (given.orElse filling)).toOption := by
  -- The file is found at its path, so only its content can fail.
  rw [Configuration.load, Configuration.merged, named]
  dsimp only
  rw [Configuration.settingsIn, stored]
  simp only [Configuration.readContent, FileEntry.read]
  cases Settings.ofBytes bytes <;> rfl

/-- The configuration of a command line with valid options, unless an environment variable is invalid. -/
theorem configuration?_asks (asks : Asks options task args) (once : (options.map Prod.fst).Nodup)
    (checked : ∀ option ∈ options, option.1.accepts option.2 = true) :
    configuration? files env args = match Flag.all.findSome? (Flag.refusal? env fun flag => options.lookup flag) with
      | some _ => none
      | none => (Configuration.load files (Flag.settingsOf fun flag =>
          (options.lookup flag).or (flag.inEnvironment? env))).toOption := by
  -- The command line is parsed as `parse_asks` says, and then the configuration is loaded.
  rw [configuration?, parse_asks asks once checked env]
  cases Flag.all.findSome? (Flag.refusal? env fun flag => options.lookup flag) <;> rfl

/-- An option with an invalid value leads to none. -/
theorem configuration?_refused (asks : Asks options task args) (once : (options.map Prod.fst).Nodup)
    (refused : ∃ option ∈ options, option.1.accepts option.2 = false) : configuration? files env args = none := by
  -- The command line is refused before the configuration is loaded.
  obtain ⟨error, fails⟩ := parse_asks_refused asks once refused env
  rw [configuration?, fails]

/-- The options for entries of a file never name a configuration file. -/
theorem lookup_config_eq_none (entries : List Settings.Entry) :
    (entries.map Settings.Entry.option).lookup .config = none := by
  -- None of the six fields has this option.
  rw [List.lookup_eq_none_iff]
  intro option member
  obtain ⟨entry, _, rfl⟩ := List.mem_map.mp member
  cases field : entry.field <;> simp [Settings.Entry.option, field, Settings.Field.flag]

/-- An option is not given or its variable is not set, if the variables of all options given are unset. -/
theorem lookup_apart (unset : ∀ standIn ∈ standIns, standIn.1 ∈ options.map Prod.fst → env.lookup standIn.2 = none)
    (flag : Flag) : options.lookup flag = none ∨ flag.inEnvironment? env = none := by
  -- If it is given, its variable is among those.
  cases text : options.lookup flag with
  | none => exact .inl rfl
  | some value =>
    have member := (lookup_isSome_iff flag).mp (by rw [text]; rfl)
    refine .inr ?_
    cases stands : flag.environmentName? with
    | none => rw [Flag.inEnvironment?, stands, Option.bind_none]
    | some name =>
      rw [Flag.inEnvironment?, stands, Option.bind_some]
      exact unset (flag, name) (mem_standIns_iff.mpr stands) member

/-- The option values of a command line that names a configuration file only. -/
def fileText (path : String) (flag : Flag) : Option String := if flag = .config then some path else none

/-- Naming a file with the settings of some options loads the same configuration as giving these options. -/
theorem load_fileText {text : Flag → Option String} {bytes : List UInt8} (unnamed : text .config = none)
    (apart : ∀ flag, text flag = none ∨ flag.inEnvironment? env = none)
    (stored : files.entry path = .ok (.content bytes))
    (held : (Settings.ofBytes bytes).toOption = some (Flag.settingsOf text)) :
    (Configuration.load files (Flag.settingsOf fun flag => (text flag).or (flag.inEnvironment? env))).toOption =
      (Configuration.load files
        (Flag.settingsOf fun flag => (fileText path flag).or (flag.inEnvironment? env))).toOption := by
  -- Both sides are `ofSettings` of some option values, which agree on every option but that of the file.
  have both (flag : Flag) : (fileText path flag).or (flag.inEnvironment? env) = none ∨ text flag = none := by
    by_cases config : flag = .config
    · exact .inr (config ▸ unnamed)
    · rcases apart flag with none | unset
      · exact .inr none
      · exact .inl (by simp [fileText, config, unset])
  rw [load_unnamed (by simp [Flag.settingsOf, unnamed, Flag.inEnvironment?, Flag.environmentName?]),
    load_named rfl stored, held, Option.bind_some, Flag.orElse_settingsOf both]
  -- No option has both a value and a variable, so their precedence does not matter.
  refine congrArg Except.toOption (Flag.ofSettings_settingsOf_congr fun flag other => ?_)
  rcases apart flag with none | unset
  · simp [fileText, other, none]
  · simp [fileText, other, unset]

/-- All effective values are valid and the login is not empty. -/
def Suffice (options : List (Flag × String)) (env : List (String × String)) : Prop :=
  (∀ flag value, countingText options env flag = some value → flag.accepts value = true) ∧
    countingText options env .login ≠ some ""

/-- Without a configuration file a command line leads to the configuration of its effective values, once they
are valid. -/
theorem configuration?_unnamed (asks : Asks options task args) (once : (options.map Prod.fst).Nodup)
    (unnamed : options.lookup .config = none)
    (accepted : ∀ flag value, countingText options env flag = some value → flag.accepts value = true) :
    configuration? files env args =
      (Configuration.ofSettings (Flag.settingsOf (countingText options env))).toOption := by
  -- Validity means that no option and no variable is refused.
  obtain ⟨checked, quiet⟩ := (countingText_accepted_iff once env).mp accepted
  have noFile : countingText options env .config = none := by
    rw [countingText, unnamed]
    rfl
  rw [configuration?_asks asks once checked, quiet, ← countingText_eq]
  exact congrArg Except.toOption (load_unnamed noFile)

/-- If the effective values suffice, there is that configuration with its defaults. -/
theorem configuration?_of_suffice (asks : Asks options task args) (once : (options.map Prod.fst).Nodup)
    (unnamed : options.lookup .config = none) (enough : Suffice options env) : configuration? files env args =
      some (Configuration.withDefaults (Flag.settingsOf (countingText options env))) := by
  -- What is left is that the login is not empty.
  rw [configuration?_unnamed asks once unnamed enough.1, Configuration.ofSettings_eq, if_neg]
  · rfl
  · -- Neither is the default login.
    have given := enough.2
    cases text : countingText options env .login with
    | none => simp [Flag.settingsOf, text, Configuration.defaultLogin]
    | some login => simpa [Flag.settingsOf, text] using given

/-- If they do not, there is none. -/
theorem configuration?_of_not_suffice (asks : Asks options task args) (once : (options.map Prod.fst).Nodup)
    (unnamed : options.lookup .config = none) (lacking : ¬ Suffice options env) :
    configuration? files env args = none := by
  -- Either all values are valid and the login is empty, or an option or a variable is refused.
  by_cases accepted : ∀ flag value, countingText options env flag = some value → flag.accepts value = true
  · have empty : countingText options env .login = some "" := by
      by_contra other
      exact lacking ⟨accepted, other⟩
    rw [configuration?_unnamed asks once unnamed accepted, Configuration.ofSettings_eq, if_pos]
    · rfl
    · simp [Flag.settingsOf, empty]
  · rw [countingText_accepted_iff once] at accepted
    by_cases checked : ∀ option ∈ options, option.1.accepts option.2 = true
    · rw [configuration?_asks asks once checked]
      -- All options are valid, so a variable is refused.
      cases refused : Flag.all.findSome? (Flag.refusal? env fun flag => options.lookup flag) with
      | some error => rfl
      | none => exact absurd ⟨checked, refused⟩ accepted
    · push Not at checked
      exact configuration?_refused asks once (by simpa using checked)

/-- A command line with options and one with a configuration file lead to the same configuration. -/
structure SameFromFile (files : Files) (env : List (String × String)) (options : List (Flag × String))
    (args fileArgs : List String) : Prop where
  /-- Both lead to none, or to the same one. -/
  same : configuration? files env args = configuration? files env fileArgs
  /-- There is one if and only if all effective values are valid and the login is not empty. -/
  loads_iff : (configuration? files env args).isSome = true ↔ Suffice options env
  /-- It has the effective values, with the defaults for the others. -/
  value : ∀ config, configuration? files env args = some config →
    config = Configuration.withDefaults (Flag.settingsOf (countingText options env))

/-- A configuration is the same whether its settings are given as options or in a configuration file: values
that are invalid as options are invalid in the file, and the others mean the same. The environment variables
of these options must be unset, since they take precedence over the file. -/
theorem configuration_same_from_file {entries : List Settings.Entry} {content : List Char}
    (once : (entries.map (·.field)).Nodup) (writes : Settings.Writes entries content)
    (given : options.Perm (entries.map Settings.Entry.option)) (asks : Asks options task args)
    (unset : ∀ standIn ∈ standIns, standIn.1 ∈ options.map Prod.fst → env.lookup standIn.2 = none)
    (named : path ≠ "") (stored : files.entry path = .ok (.content (Utf8.encode content)))
    {fileTask : Task} {fileArgs : List String} (asksFile : Asks [(.config, path)] fileTask fileArgs) :
    SameFromFile files env options args fileArgs := by
  -- Reading the file gives the settings of the options or fails with them, which is
  -- `Settings.ofBytes_toOption`.
  have onceThere := Settings.nodup_options once
  have onceHere : (options.map Prod.fst).Nodup := (given.map Prod.fst).nodup_iff.mpr onceThere
  have lookups := lookup_of_perm onceThere given
  have unnamed : options.lookup .config = none := (lookups .config).trans (lookup_config_eq_none entries)
  have apart := lookup_apart unset
  have held := Settings.ofBytes_toOption writes once
  simp only [← lookups] at held
  -- On both sides no option given has a variable that is set, so the same variables are checked.
  have fileApart (flag : Flag) : fileText path flag = none ∨ flag.inEnvironment? env = none := by
    cases flag <;> first | exact .inr rfl | exact .inl rfl
  have fileLookup : (fun flag => ([(.config, path)] : List (Flag × String)).lookup flag) = fileText path := by
    funext flag
    cases flag <;> rfl
  have file := @configuration?_asks files env _ _ _ asksFile (by simp) (by simpa [Flag.accepts] using named)
  rw [fileLookup, Flag.refusal?_apart fileApart, ← Flag.refusal?_apart apart] at file
  refine ⟨?same, ?loads_iff, ?value⟩
  case loads_iff =>
    by_cases enough : Suffice options env
    · simp [configuration?_of_suffice asks onceHere unnamed enough, enough]
    · simp [configuration?_of_not_suffice asks onceHere unnamed enough, enough]
  case value =>
    intro config loaded
    by_cases enough : Suffice options env
    · rw [configuration?_of_suffice asks onceHere unnamed enough] at loaded
      exact (Option.some.inj loaded).symm
    · rw [configuration?_of_not_suffice asks onceHere unnamed enough] at loaded
      cases loaded
  case same =>
    by_cases checked : ∀ option ∈ options, option.1.accepts option.2 = true
    -- The file holds the settings of the options.
    · rw [if_pos (by simpa [given.mem_iff] using checked)] at held
      rw [configuration?_asks asks onceHere checked, file]
      cases Flag.all.findSome? _ with
      | some error => rfl
      | none => exact (load_fileText unnamed apart stored held).trans (by rw [← fileLookup])
    -- The value that is invalid as an option makes the file invalid.
    · rw [if_neg (by simpa [given.mem_iff] using checked)] at held
      push Not at checked
      rw [configuration?_refused asks onceHere (by simpa using checked), file]
      cases Flag.all.findSome? _ with
      | some error => rfl
      | none =>
        dsimp only
        rw [load_named rfl stored, held]
        rfl

/-- A password with quotes, a backslash and a colon is the same in a file, where two of them are escaped. -/
theorem quoted_password_from_file :
    let files : Files := [("probe.yaml", .content (Utf8.encode
      "password: \"a\\\"b\\\\: ü\"\nrequest_timeout: 1500\nlog_level: \"wArN\"\n".toList))]
    let args := ["session", "--log-level=wArN", "--password=a\"b\\: ü", "--request-timeout=1500"]
    configuration? files [] args = configuration? files [] ["session", "--config=probe.yaml"] ∧
      (configuration? files [] args).map (fun config => (config.password, config.requestTimeout, config.logLevel)) =
        some ("a\"b\\: ü", some 1500, .warn) := by
  intro files args
  let password : Settings.Entry := ⟨.password, "a\"b\\: ü", .doubleQuoted, _,
    .quoted (Yaml.writesQuoted_escaped (by decide)) (by decide) (by decide)⟩
  let requestTimeout : Settings.Entry := ⟨.requestTimeout, toString 1500, .plain, _, .number (by decide)⟩
  let logLevel : Settings.Entry := ⟨.logLevel, "wArN", .doubleQuoted, _,
    .quoted (Yaml.writesQuoted_escaped (by decide)) (by decide) (by decide)⟩
  have content : Yaml.blockText ([password, requestTimeout, logLevel].map Settings.Entry.pair) =
      "password: \"a\\\"b\\\\: ü\"\nrequest_timeout: 1500\nlog_level: \"wArN\"\n".toList := by decide +kernel
  have writes : Settings.Writes [password, requestTimeout, logLevel] _ := .mapping (.block _ _)
  have given : ([(.logLevel, "wArN"), (.password, "a\"b\\: ü"), (.requestTimeout, "1500")] :
    List (Flag × String)).Perm
      ([password, requestTimeout, logLevel].map Settings.Entry.option) := by decide
  have asks : Asks [(.logLevel, "wArN"), (.password, "a\"b\\: ü"), (.requestTimeout, "1500")] .session args :=
    .session _
  have asksFile : Asks [(.config, "probe.yaml")] .session ["session", "--config=probe.yaml"] := .session _
  have stored : files.entry "probe.yaml" = .ok (.content (Utf8.encode (Yaml.blockText
      ([password, requestTimeout, logLevel].map Settings.Entry.pair)))) := by
    rw [content]
    rfl
  have same : SameFromFile files [] _ args ["session", "--config=probe.yaml"] :=
    configuration_same_from_file (by decide) writes given asks (by decide) (by decide) stored asksFile
  exact ⟨same.same, by decide +kernel⟩

end AccessProbe.CommandLine
