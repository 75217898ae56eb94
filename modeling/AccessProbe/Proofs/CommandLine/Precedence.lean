import AccessProbe.Proofs.CommandLine.Environment

/-! Options take precedence over environment variables, whatever their order. -/

namespace AccessProbe.CommandLine

/-- The arguments for a task with options; for `list` the options stand before or after the kind of secret. -/
inductive Asks : List (Flag × String) → Task → List String → Prop where
  /-- The `session` subcommand. -/
  | session (options : List (Flag × String)) : Asks options .session ("session" :: words options)
  /-- The `token` subcommand. -/
  | token (options : List (Flag × String)) : Asks options .token ("token" :: words options)
  /-- The `register` subcommand. -/
  | register (options : List (Flag × String)) : Asks options .register ("register" :: words options)
  /-- The `list` subcommand with its kind of secret. -/
  | list (before after : List (Flag × String)) {word : String} {kind : SecretKind}
      (selects : SecretKind.ofText? word = some kind) :
      Asks (before ++ after) (.list kind) ("list" :: (words before ++ word :: words after))
  /-- The `verify-auth` subcommand. -/
  | verifyAuth (options : List (Flag × String)) : Asks options .verifyAuth ("verify-auth" :: words options)

variable {options otherOptions : List (Flag × String)} {task : Task} {args : List String}

/-- The options with a value are those that are given. -/
theorem lookup_isSome_iff (flag : Flag) : (options.lookup flag).isSome = true ↔ flag ∈ options.map Prod.fst := by
  -- The lookup fails if and only if every option given is another one.
  rw [← not_iff_not, Bool.not_eq_true, Option.isSome_eq_false_iff, Option.isNone_iff_eq_none,
    List.lookup_eq_none_iff]
  simp only [bne_iff_ne, List.mem_map, not_exists, not_and]
  exact ⟨fun none option member same => none option member same.symm,
    fun none option member same => none option member same.symm⟩

/-- The value of an option that is given once is the one it is given with. -/
theorem lookup_eq_some_iff (once : (options.map Prod.fst).Nodup) {flag : Flag} {value : String} :
    options.lookup flag = some value ↔ (flag, value) ∈ options := by
  -- Induction on the options: the first one is this option, and then no other is, or the value is found among
  -- the rest.
  induction options with
  | nil => simp
  | cons option rest ih =>
    obtain ⟨first, text⟩ := option
    rw [List.map_cons, List.nodup_cons] at once
    by_cases same : flag = first
    · subst same
      have absent : (flag, value) ∉ rest := fun member => once.1 (List.mem_map.mpr ⟨_, member, rfl⟩)
      simp [absent, eq_comm]
    · have differ : (flag == first) = false := by simpa using same
      simp [List.lookup_cons, differ, same, ih once.2]

/-- The order of distinct options does not matter for their values. -/
theorem lookup_of_perm (once : (options.map Prod.fst).Nodup) (rearranged : otherOptions.Perm options) (flag : Flag) :
    otherOptions.lookup flag = options.lookup flag := by
  -- The value is given by membership, which does not depend on the order.
  have onceThere : (otherOptions.map Prod.fst).Nodup := (rearranged.map Prod.fst).nodup_iff.mpr once
  ext value
  rw [lookup_eq_some_iff once, lookup_eq_some_iff onceThere, rearranged.mem_iff]

namespace Parsing.Reads

variable {parsing : Parsing} {text : Flag → Option String} {given : List Flag} {kind : Option SecretKind}
  {count : Nat} {subcommand : Subcommand}

/-- After the arguments the environment variables are read: the first invalid one is an error, and otherwise
they are the defaults of the values. -/
theorem finish (reads : parsing.Reads text given kind count)
    (members : ∀ flag, flag ∈ given ↔ (text flag).isSome = true) (takes : subcommand.takesFlags = true)
    (env : List (String × String)) :
    match Flag.all.findSome? (Flag.refusal? env text) with
    | some error => parsing.finish subcommand env = .error error
    | none => ∃ last, parsing.finish subcommand env = .ok last ∧
        last.settings = Flag.settingsOf (fun flag => (text flag).or (flag.inEnvironment? env)) ∧
        last.kind = kind := by
  -- Reading the variables is `Holds.foldlM_fromEnvironment` for all options.
  have holds : Holds ⟨Flag.settingsOf text, kind, given, none, count, false⟩ text := ⟨rfl, members⟩
  have filling := holds.foldlM_fromEnvironment env Flag.all
  have ended : parsing.finish subcommand env = Flag.all.foldlM (fromEnvironment env)
      ⟨Flag.settingsOf text, kind, given, none, count, false⟩ := by
    rw [Parsing.finish, reads.settles]
    simp only [takes, if_true]
    rfl
  have complete : Flag.filled env text Flag.all = fun flag => (text flag).or (flag.inEnvironment? env) := by
    funext flag
    rw [Flag.filled, if_pos (by cases flag <;> decide)]
  rw [ended, ← complete]
  cases refused : Flag.all.findSome? (Flag.refusal? env text) with
  | some error => simpa only [refused] using filling
  | none =>
    rw [refused] at filling
    obtain ⟨last, taken, filled, same⟩ := filling
    exact ⟨last, taken, filled.settings, same⟩

end Parsing.Reads

/-- The task of a subcommand, with the kind of secret for `list`. -/
def Subcommand.task? : Subcommand → Option SecretKind → Option Task
  | .session, _ => some .session
  | .token, _ => some .token
  | .register, _ => some .register
  | .list, kind => kind.map .list
  | .verifyAuth, _ => some .verifyAuth
  | .version, _ | .help, _ => none

/-- The command of arguments that are read without error, unless an environment variable is invalid. -/
theorem parseArguments_of_reads {subcommand : Subcommand} {text : Flag → Option String} {given : List Flag}
    {kind : Option SecretKind} {count : Nat} {rest : List String} {read : Parsing}
    (taken : rest.foldlM (fun parsing word => parsing.word subcommand word) Parsing.start = .ok read)
    (reads : read.Reads text given kind count) (members : ∀ flag, flag ∈ given ↔ (text flag).isSome = true)
    (stands : subcommand.task? kind = some task) (env : List (String × String)) :
    parseArguments subcommand env rest = match Flag.all.findSome? (Flag.refusal? env text) with
      | some error => .error error
      | none => .ok (.run task (Flag.settingsOf fun flag => (text flag).or (flag.inEnvironment? env))) := by
  -- The end of the parsing is `Parsing.Reads.finish`; what is left is to build the task.
  have takes : subcommand.takesFlags = true := by
    cases subcommand <;> first | rfl | cases stands
  have ends := reads.finish members takes env
  rw [parseArguments, taken]
  cases refused : Flag.all.findSome? (Flag.refusal? env text) with
  | some error =>
    rw [refused] at ends
    show (read.finish subcommand env).bind _ = _
    rw [ends]
    rfl
  | none =>
    rw [refused] at ends
    obtain ⟨last, finished, settings, same⟩ := ends
    show (read.finish subcommand env).bind _ = _
    rw [finished, ← settings]
    cases subcommand with
    | list =>
      obtain ⟨kind, rfl⟩ : ∃ some, kind = .some some := by
        cases kind with
        | none => cases stands
        | some kind => exact ⟨kind, rfl⟩
      cases stands
      simp only [Except.bind, same]
      rfl
    | version => cases stands
    | help => cases stands
    | _ =>
      cases stands
      rfl

/-- The command of a task with valid options, unless an environment variable is invalid. -/
theorem parse_asks (asks : Asks options task args) (once : (options.map Prod.fst).Nodup)
    (checked : ∀ option ∈ options, option.1.accepts option.2 = true) (env : List (String × String)) :
    parse env args = match Flag.all.findSome? (Flag.refusal? env fun flag => options.lookup flag) with
      | some error => .error error
      | none => .ok (.run task (Flag.settingsOf fun flag => (options.lookup flag).or (flag.inEnvironment? env))) := by
  -- Apart from `list` all options follow the subcommand, so `alone` covers them.
  have alone : ∀ subcommand : Subcommand, subcommand.takesFlags = true → ∃ read : Parsing,
      (words options).foldlM (fun parsing word => parsing.word subcommand word) Parsing.start = .ok read ∧
        read.Reads (fun flag => options.lookup flag) (options.map Prod.fst).reverse none 0 := by
    intro subcommand takes
    obtain ⟨read, taken, reads⟩ := Parsing.Reads.atStart.options takes checked once (by simp)
    exact ⟨read, taken, by simpa using reads⟩
  have members : ∀ flag, flag ∈ (options.map Prod.fst).reverse ↔ (options.lookup flag).isSome = true := by
    intro flag
    rw [lookup_isSome_iff, List.mem_reverse]
  cases asks with
  | session =>
    obtain ⟨read, taken, reads⟩ := alone .session rfl
    exact parseArguments_of_reads taken reads members rfl env
  | token =>
    obtain ⟨read, taken, reads⟩ := alone .token rfl
    exact parseArguments_of_reads taken reads members rfl env
  | register =>
    obtain ⟨read, taken, reads⟩ := alone .register rfl
    exact parseArguments_of_reads taken reads members rfl env
  | verifyAuth =>
    obtain ⟨read, taken, reads⟩ := alone .verifyAuth rfl
    exact parseArguments_of_reads taken reads members rfl env
  | @list before after word kind selects =>
    obtain ⟨onceBefore, onceAfter, apart⟩ := List.nodup_append.mp (List.map_append ▸ once)
    have takes : Subcommand.list.takesFlags = true := rfl
    obtain ⟨first, takenBefore, readsBefore⟩ := Parsing.Reads.atStart.options takes
      (fun option member => checked option (List.mem_append_left _ member)) onceBefore (by simp)
    obtain ⟨second, takenKind, readsKind⟩ := readsBefore.kindWord selects
    obtain ⟨last, takenAfter, readsAfter⟩ := readsKind.options takes
      (fun option member => checked option (List.mem_append_right _ member)) onceAfter fun option member again =>
        apart option.1 (by simpa using again) option.1 (List.mem_map_of_mem member) rfl
    have taken : (words before ++ word :: words after).foldlM (fun parsing word => parsing.word .list word)
        Parsing.start = .ok last := by
      have rest : (word :: words after).foldlM (fun parsing word => parsing.word .list word) first = .ok last := by
        rw [List.foldlM_cons, takenKind]
        exact takenAfter
      rw [List.foldlM_append, takenBefore]
      exact rest
    -- The options after the kind come first in the lookup, which does not matter as no option is given twice.
    have texts : (fun flag => (after.lookup flag).or ((before.lookup flag).or none)) =
        fun flag => (before ++ after).lookup flag := by
      funext flag
      rw [Option.or_none, ← List.lookup_append]
      exact lookup_of_perm once List.perm_append_comm flag
    rw [texts] at readsAfter
    refine parseArguments_of_reads taken readsAfter (fun flag => ?_) rfl env
    rw [lookup_isSome_iff]
    simp [or_comm]

/-- There is no command if an option has an invalid value. -/
theorem parse_asks_refused (asks : Asks options task args) (once : (options.map Prod.fst).Nodup)
    (refused : ∃ option ∈ options, option.1.accepts option.2 = false) (env : List (String × String)) :
    ∃ error, parse env args = .error error := by
  -- The error of reading the options is that of the whole parse.
  have ends {subcommand : Subcommand} {rest : List String}
      (fails : ∃ error, rest.foldlM (fun parsing word => parsing.word subcommand word) Parsing.start = .error error) :
      ∃ error, parseArguments subcommand env rest = .error error := by
    obtain ⟨error, fails⟩ := fails
    exact ⟨error, by rw [parseArguments, fails]; rfl⟩
  have alone (subcommand : Subcommand) (takes : subcommand.takesFlags = true) :
      ∃ error, parseArguments subcommand env (words options) = .error error :=
    ends (Parsing.Reads.atStart.options_refused takes refused once (by simp))
  cases asks with
  | session => exact alone .session rfl
  | token => exact alone .token rfl
  | register => exact alone .register rfl
  | verifyAuth => exact alone .verifyAuth rfl
  | @list before after word kind selects =>
    obtain ⟨onceBefore, onceAfter, apart⟩ := List.nodup_append.mp (List.map_append ▸ once)
    have takes : Subcommand.list.takesFlags = true := rfl
    have result : ∃ error, parseArguments .list env (words before ++ word :: words after) = .error error := by
      refine ends ?_
      rw [List.foldlM_append]
      by_cases accepted : ∀ option ∈ before, option.1.accepts option.2 = true
      · -- The options before the kind are valid, so an invalid one comes after it.
        obtain ⟨first, takenBefore, readsBefore⟩ :=
          Parsing.Reads.atStart.options takes accepted onceBefore (by simp)
        obtain ⟨second, takenKind, readsKind⟩ := readsBefore.kindWord selects
        have behind : ∃ option ∈ after, option.1.accepts option.2 = false := by
          obtain ⟨option, member, verdict⟩ := refused
          rcases List.mem_append.mp member with inBefore | inAfter
          · cases (accepted option inBefore).symm.trans verdict
          · exact ⟨option, inAfter, verdict⟩
        obtain ⟨error, fails⟩ := readsKind.options_refused takes behind onceAfter fun option member again =>
          apart option.1 (by simpa using again) option.1 (List.mem_map_of_mem member) rfl
        have rest : (word :: words after).foldlM (fun parsing word => parsing.word .list word) first =
            .error error := by
          rw [List.foldlM_cons, takenKind]
          exact fails
        exact ⟨error, by rw [takenBefore]; exact rest⟩
      · push Not at accepted
        obtain ⟨error, fails⟩ := Parsing.Reads.atStart.options_refused takes
          (by simpa using accepted) onceBefore (by simp)
        exact ⟨error, by rw [fails]; rfl⟩
    exact result

/-- The options with an environment variable, and its name. -/
def standIns : List (Flag × String) :=
  [(.target, "CENARIUS_SERVER_ADDR"), (.login, "CENARIUS_LOGIN"), (.password, "CENARIUS_PASSWORD"),
    (.logLevel, "CENARIUS_LOG_LEVEL")]

/-- The effective value of an option: the one given, or that of its environment variable. -/
def countingText (options : List (Flag × String)) (env : List (String × String)) (flag : Flag) : Option String :=
  (options.lookup flag).or ((standIns.lookup flag).bind fun name => env.lookup name)

/-- The meaning of a command line with distinct options in an environment. -/
structure OptionsBeforeVariables (options : List (Flag × String)) (task : Task) (args : List String)
    (env : List (String × String)) : Prop where
  /-- It is accepted if and only if every environment variable whose option is not given is unset or valid. -/
  accepted : (∃ command, parse env args = .ok command) ↔
    ∀ standIn ∈ standIns, standIn.1 ∉ options.map Prod.fst →
      ∀ value, env.lookup standIn.2 = some value → standIn.1.accepts value = true
  /-- If so, it runs the task with the effective values, all of which are valid. -/
  settings : ∀ command, parse env args = .ok command →
    command = .run task (Flag.settingsOf (countingText options env)) ∧
      ∀ flag value, countingText options env flag = some value → flag.accepts value = true
  /-- The order of the arguments does not matter, nor do the variables whose option is given. -/
  stable : ∀ otherOptions otherArgs otherEnv, otherOptions.Perm options → Asks otherOptions task otherArgs →
    (∀ standIn ∈ standIns, standIn.1 ∉ options.map Prod.fst →
      otherEnv.lookup standIn.2 = env.lookup standIn.2) →
    parse otherEnv otherArgs = parse env args

/-- The list has the environment variable of every option that has one. -/
theorem mem_standIns_iff {flag : Flag} {name : String} :
    (flag, name) ∈ standIns ↔ flag.environmentName? = some name := by
  cases flag <;> simp [standIns, Flag.environmentName?, eq_comm]

/-- The effective value in terms of the lookup of a variable by its option. -/
theorem countingText_eq (options : List (Flag × String)) (env : List (String × String)) :
    countingText options env = fun flag => (options.lookup flag).or (flag.inEnvironment? env) := by
  funext flag
  cases flag <;> rfl

/-- All effective values are valid if and only if the options are and no variable is refused. -/
theorem countingText_accepted_iff (once : (options.map Prod.fst).Nodup) (env : List (String × String)) :
    (∀ flag value, countingText options env flag = some value → flag.accepts value = true) ↔
      (∀ option ∈ options, option.1.accepts option.2 = true) ∧
        Flag.all.findSome? (Flag.refusal? env fun flag => options.lookup flag) = none := by
  -- An option is refused exactly if it is not given and its variable is invalid.
  rw [countingText_eq, List.findSome?_eq_none_iff]
  constructor
  · intro accepted
    refine ⟨fun option member => accepted option.1 option.2 ?_, fun flag _ => Flag.refusal?_eq_none_iff.mpr ?_⟩
    · simp only [(lookup_eq_some_iff once).mpr member, Option.some_or]
    · intro absent value set
      exact accepted flag value (by simp only [absent, Option.none_or, set])
  · rintro ⟨checked, quiet⟩ flag value counts
    -- The value is that of an option given, or that of a variable whose option is not.
    rcases Option.or_eq_some_iff.mp counts with own | ⟨absent, set⟩
    · exact checked (flag, value) ((lookup_eq_some_iff once).mp own)
    · exact Flag.refusal?_eq_none_iff.mp (quiet flag (by cases flag <;> decide)) absent value set

/-- Options take precedence over environment variables, and their order does not matter. -/
theorem options_before_variables (asks : Asks options task args) (once : (options.map Prod.fst).Nodup)
    (checked : ∀ option ∈ options, option.1.accepts option.2 = true) (env : List (String × String)) :
    OptionsBeforeVariables options task args env := by
  -- `parse_asks` gives the command; the three parts read it off.
  have command := parse_asks asks once checked env
  have absent_iff (flag : Flag) : options.lookup flag = none ↔ flag ∉ options.map Prod.fst := by
    rw [← lookup_isSome_iff, Bool.not_eq_true, Option.isSome_eq_false_iff, Option.isNone_iff_eq_none]
  -- The condition on the listed variables is that no option is refused.
  have refused_iff : Flag.all.findSome? (Flag.refusal? env fun flag => options.lookup flag) = none ↔
      ∀ standIn ∈ standIns, standIn.1 ∉ options.map Prod.fst →
        ∀ value, env.lookup standIn.2 = some value → standIn.1.accepts value = true := by
    rw [List.findSome?_eq_none_iff]
    constructor
    · rintro quiet ⟨flag, name⟩ listed absent value set
      refine Flag.refusal?_eq_none_iff.mp (quiet flag (by cases flag <;> decide))
        ((absent_iff flag).mpr absent) value ?_
      rw [Flag.inEnvironment?, mem_standIns_iff.mp listed]
      exact set
    · intro passes flag _
      refine Flag.refusal?_eq_none_iff.mpr fun absent value set => ?_
      obtain ⟨name, named, set⟩ := Option.bind_eq_some_iff.mp set
      exact passes (flag, name) (mem_standIns_iff.mpr named) ((absent_iff flag).mp absent) value set
  refine ⟨?accepted, ?settings, ?stable⟩
  case accepted =>
    rw [← refused_iff, command]
    cases Flag.all.findSome? (Flag.refusal? env fun flag => options.lookup flag) <;> simp
  case settings =>
    intro result parsed
    rw [command] at parsed
    cases refused : Flag.all.findSome? (Flag.refusal? env fun flag => options.lookup flag) with
    | some error => simp [refused] at parsed
    | none =>
      rw [refused] at parsed
      cases parsed
      exact ⟨by rw [countingText_eq], (countingText_accepted_iff once env).mpr ⟨checked, refused⟩⟩
  case stable =>
    intro otherOptions otherArgs otherEnv rearranged otherAsks agree
    have agrees (flag : Flag) (absent : options.lookup flag = none) :
        flag.inEnvironment? otherEnv = flag.inEnvironment? env := by
      unfold Flag.inEnvironment?
      cases named : flag.environmentName? with
      | none => rfl
      | some name => exact agree (flag, name) (mem_standIns_iff.mpr named) ((absent_iff flag).mp absent)
    rw [command, parse_asks otherAsks ((rearranged.map Prod.fst).nodup_iff.mpr once)
      (fun option member => checked option (rearranged.mem_iff.mp member)) otherEnv]
    simp only [lookup_of_perm once rearranged]
    have verdicts : (Flag.refusal? otherEnv fun flag => options.lookup flag) =
        Flag.refusal? env fun flag => options.lookup flag :=
      funext fun flag => Flag.refusal?_congr (agrees flag)
    have texts : (fun flag => (options.lookup flag).or (flag.inEnvironment? otherEnv)) =
        fun flag => (options.lookup flag).or (flag.inEnvironment? env) := by
      funext flag
      cases own : options.lookup flag with
      | none => rw [agrees flag own]
      | some value => rfl
    rw [verdicts, texts]

/-- An invalid variable is ignored when its option is given, even after the kind, and an empty password counts
as a value. -/
theorem target_before_variable :
    parse [("CENARIUS_SERVER_ADDR", "http://["), ("CENARIUS_PASSWORD", "")]
        ["list", "--login=ada", "cc", "--target=cenarius:81"] =
      .ok (.run (.list .creditCard) (Flag.settingsOf (countingText [(.login, "ada"), (.target, "cenarius:81")]
        [("CENARIUS_SERVER_ADDR", "http://["), ("CENARIUS_PASSWORD", "")]))) := by
  have asks : Asks ([(.login, "ada")] ++ [(.target, "cenarius:81")]) (.list .creditCard)
      ["list", "--login=ada", "cc", "--target=cenarius:81"] :=
    .list [(.login, "ada")] [(.target, "cenarius:81")] (by decide)
  have stated := options_before_variables asks (by decide) (by decide +kernel)
    [("CENARIUS_SERVER_ADDR", "http://["), ("CENARIUS_PASSWORD", "")]
  obtain ⟨command, parsed⟩ := stated.accepted.mpr (by decide +kernel)
  rw [parsed, (stated.settings command parsed).1]
  rfl

end AccessProbe.CommandLine
