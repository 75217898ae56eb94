import Mathlib.Logic.Function.Basic
import AccessProbe.CommandLine.Parse

/-! Options with values on the command line, in any order. -/

namespace AccessProbe

/-- An alias of a kind of secret is never read as an option, since it does not start with a dash. -/
theorem SecretKind.head_ne_dash {word : String} {kind : SecretKind} (selects : ofText? word = some kind) :
    word.toList.head? ≠ some '-' := by
  -- Trimming keeps a dash at the start, and no alias starts with one.
  intro dash
  have listed := List.find?_some selects
  rw [List.contains_iff_mem] at listed
  -- A dash is not white space, so it is still there after trimming.
  have first : (wanted word).toList.head? = some '-' := by
    obtain ⟨rest, text⟩ := List.head?_eq_some_iff.mp dash
    rw [wanted, text, String.toList_ofList, List.head?_map, trimBlank]
    have kept : ('-' :: rest).dropWhile isBlank = '-' :: rest := rfl
    rw [kept, List.reverse_cons, List.dropWhile_append]
    split
    · rfl
    · simp
  have none : ∀ kind : SecretKind, ∀ name ∈ kind.aliases, name.toList.head? ≠ some '-' := by
    intro kind
    cases kind <;> decide
  exact none kind _ listed first

namespace CommandLine

namespace Flag

/-- The argument `--option=value`. -/
def word (flag : Flag) (value : String) : String := "--" ++ flag.long ++ "=" ++ value

/-- Whether the value parser of an option accepts a value. -/
def accepts (flag : Flag) (value : String) : Bool :=
  match flag with
  | .config | .header => value ≠ ""
  | .login | .password => true
  | .target => (readTarget value).toOption.isSome
  | .requestTimeout => (Decimal.readNumber (Nat.pow 2 64) value.toList).toOption.isSome
  | .logLevel => (Verbosity.ofText? value).isSome

/-- The settings for these option values. -/
def settingsOf (text : Flag → Option String) : Settings where
  config := text .config
  target := (text .target).bind fun value => (readTarget value).toOption
  login := text .login
  password := text .password
  header := text .header
  requestTimeout := (text .requestTimeout).bind fun value =>
    (Decimal.readNumber (Nat.pow 2 64) value.toList).toOption
  logLevel := (text .logLevel).bind Verbosity.ofText?

/-- The name of an option has no equals sign in it. -/
theorem equals_not_mem_long (flag : Flag) : ∀ c ∈ flag.long.toList, decide (c ≠ '=') = true :=
  List.all_eq_true.mp (by cases flag <;> decide)

/-- Every option is found by its name. -/
theorem ofLong?_long (flag : Flag) : ofLong? flag.long = some flag := by
  cases flag <;> decide

/-- The argument `--option=value` is split into the option and the value. -/
theorem shape_word (flag : Flag) (value : String) :
    Shape.ofWord (flag.word value) = .long flag.long (some value) := by
  -- The split is at the first equals sign, and the name of the option has none.
  have name : (flag.long.toList ++ '=' :: value.toList).takeWhile (· ≠ '=') = flag.long.toList := by
    rw [List.takeWhile_append_of_pos flag.equals_not_mem_long]
    simp
  have rest : (flag.long.toList ++ '=' :: value.toList).dropWhile (· ≠ '=') = '=' :: value.toList := by
    rw [List.dropWhile_append_of_pos flag.equals_not_mem_long]
    simp
  have text : (flag.word value).toList = '-' :: '-' :: (flag.long.toList ++ '=' :: value.toList) := by
    simp [word]
  rw [Shape.ofWord, text]
  -- The argument is not `--`, which would end the options.
  cases pieces : flag.long.toList ++ '=' :: value.toList with
  | nil => simp at pieces
  | cons c more =>
    rw [pieces] at name rest
    simp only [name, rest, String.ofList_toList]

/-- A valid value is set for its option. -/
theorem setFlag_settingsOf {flag : Flag} {value : String} (accepted : flag.accepts value = true)
    (text : Flag → Option String) :
    setFlag (settingsOf text) flag value = .ok (settingsOf (Function.update text flag (some value))) := by
  -- One case per option, each by its value parser.
  delta setFlag
  cases flag with
  | config =>
    have nonempty : value ≠ "" := of_decide_eq_true accepted
    simp [nonempty, settingsOf]
  | header =>
    have nonempty : value ≠ "" := of_decide_eq_true accepted
    simp [nonempty, settingsOf]
  | login => simp [settingsOf]
  | password => simp [settingsOf]
  | target =>
    dsimp only
    cases read : readTarget value with
    | error cause => simp [accepts, read, Except.toOption] at accepted
    | ok url => simp [settingsOf, read, Except.toOption]
  | requestTimeout =>
    dsimp only
    cases read : Decimal.readNumber (Nat.pow 2 64) value.toList with
    | error cause => simp only [accepts, read, Except.toOption, Option.isSome_none, Bool.false_eq_true] at accepted
    | ok number => simp [settingsOf, read, Except.toOption]
  | logLevel =>
    dsimp only
    cases read : Verbosity.ofText? value with
    | none => simp [accepts, read] at accepted
    | some verbosity => simp [settingsOf, read]

/-- An invalid value is an error, which does not depend on the settings so far. -/
theorem setFlag_refused {flag : Flag} {value : String} (refused : flag.accepts value = false) :
    ∃ error, ∀ settings, setFlag settings flag value = .error error := by
  -- One case per option, each by its value parser; a login and a password are always valid.
  delta setFlag
  cases flag with
  | config =>
    have empty : value = "" := by simpa using of_decide_eq_false refused
    exact ⟨_, fun settings => if_pos empty⟩
  | header =>
    have empty : value = "" := by simpa using of_decide_eq_false refused
    exact ⟨_, fun settings => if_pos empty⟩
  | login => cases refused
  | password => cases refused
  | target =>
    dsimp only
    cases read : readTarget value with
    | error cause => exact ⟨_, fun settings => rfl⟩
    | ok url => simp [accepts, read, Except.toOption] at refused
  | requestTimeout =>
    dsimp only
    cases read : Decimal.readNumber (Nat.pow 2 64) value.toList with
    | error cause => exact ⟨_, fun settings => rfl⟩
    | ok number => simp only [accepts, read, Except.toOption, Option.isSome_some, Bool.true_eq_false] at refused
  | logLevel =>
    dsimp only
    cases read : Verbosity.ofText? value with
    | none => exact ⟨_, fun settings => rfl⟩
    | some verbosity => simp [accepts, read] at refused

/-- The value of an option that is not among the others may be set first. -/
theorem lookup_or_update {rest : List (Flag × String)} {flag : Flag} (absent : flag ∉ rest.map Prod.fst)
    (value : String) (text : Flag → Option String) :
    (fun other => (rest.lookup other).or (Function.update text flag (some value) other)) =
      fun other => (List.lookup other ((flag, value) :: rest)).or (text other) := by
  -- The two sides are compared at that option and at every other one.
  funext other
  by_cases same : other = flag
  · subst same
    have none : rest.lookup other = none := by
      rw [List.lookup_eq_none_iff]
      intro pair member
      have differ : other ≠ pair.1 := fun same => absent (List.mem_map.mpr ⟨pair, member, same.symm⟩)
      simpa using differ
    simp [none]
  · have differ : (other == flag) = false := by simpa using same
    simp [List.lookup_cons, differ, Function.update_of_ne same]

/-- Setting the values of distinct options succeeds if and only if all of them are valid, and then the
settings have these values. -/
theorem foldlM_setFlag {options : List (Flag × String)} (once : (options.map Prod.fst).Nodup)
    (text : Flag → Option String) :
    options.foldlM (fun settings option => (setFlag settings option.1 option.2).toOption) (settingsOf text) =
      if options.all fun option => option.1.accepts option.2 then
        some (settingsOf fun flag => (options.lookup flag).or (text flag))
      else none := by
  -- Induction on the options, with the values set so far as invariant.
  induction options generalizing text with
  | nil => simp
  | cons option rest ih =>
    obtain ⟨flag, value⟩ := option
    rw [List.map_cons, List.nodup_cons] at once
    rw [List.foldlM_cons]
    cases verdict : flag.accepts value with
    | false =>
      obtain ⟨error, refused⟩ := setFlag_refused verdict
      simp [refused, verdict, Except.toOption]
    | true =>
      have others := ih once.2 (Function.update text flag (some value))
      rw [lookup_or_update once.1] at others
      rw [setFlag_settingsOf verdict, List.all_cons, verdict, Bool.true_and]
      exact others

end Flag

/-- The arguments for options with their values. -/
def words (options : List (Flag × String)) : List String := options.map fun option => option.1.word option.2

namespace Parsing

/-- The arguments so far give these option values and this kind of secret, once a pending argument is checked.
-/
structure Reads (parsing : Parsing) (text : Flag → Option String) (given : List Flag) (kind : Option SecretKind)
    (count : Nat) : Prop where
  /-- There has been no `--`. -/
  undivided : parsing.divided = false
  /-- This many positional arguments have been read. -/
  words : parsing.words = count
  /-- No option is waiting for its value, and a pending positional argument is valid. -/
  settles : parsing.settle = .ok ⟨Flag.settingsOf text, kind, given, none, count, false⟩

namespace Reads

variable {parsing : Parsing} {text : Flag → Option String} {given : List Flag} {kind : Option SecretKind}
  {count : Nat} {subcommand : Subcommand}

theorem atStart : start.Reads (fun _ => none) [] none 0 := ⟨rfl, rfl, rfl⟩

/-- An option with its value is read after the pending argument is checked. -/
theorem word_eq_take (reads : parsing.Reads text given kind count) (takes : subcommand.takesFlags = true)
    (flag : Flag) (value : String) : parsing.word subcommand (flag.word value) =
      take ⟨Flag.settingsOf text, kind, given, none, count, false⟩ (.flag flag) (some value) := by
  simp [word, reads.undivided, Flag.shape_word, longWord, Flag.ofLong?_long, Option.filter_some, takes, reads.settles]

/-- A new option with a valid value is read. -/
theorem option (reads : parsing.Reads text given kind count) (takes : subcommand.takesFlags = true) {flag : Flag}
    {value : String} (accepted : flag.accepts value = true) (new : flag ∉ given) :
    ∃ next, parsing.word subcommand (flag.word value) = .ok next ∧
      next.Reads (Function.update text flag (some value)) (flag :: given) kind count := by
  -- The option has not been given before, so `take` sets its value.
  have taken : parsing.word subcommand (flag.word value) =
      .ok ⟨Flag.settingsOf (Function.update text flag (some value)), kind, flag :: given, none, count, false⟩ := by
    rw [reads.word_eq_take takes]
    simp [take, new, Flag.setFlag_settingsOf accepted]
  exact ⟨_, taken, rfl, rfl, rfl⟩

/-- Distinct new options with valid values are read. -/
theorem options (reads : parsing.Reads text given kind count) (takes : subcommand.takesFlags = true)
    {options : List (Flag × String)} (accepted : ∀ option ∈ options, option.1.accepts option.2 = true)
    (once : (options.map Prod.fst).Nodup) (new : ∀ option ∈ options, option.1 ∉ given) :
    ∃ next, (CommandLine.words options).foldlM (fun parsing word => parsing.word subcommand word) parsing = .ok next ∧
      next.Reads (fun flag => (options.lookup flag).or (text flag)) ((options.map Prod.fst).reverse ++ given) kind
        count := by
  -- Induction on the options, each of which is new to those read so far.
  induction options generalizing parsing text given with
  | nil => exact ⟨parsing, rfl, by simpa using reads⟩
  | cons option rest ih =>
    obtain ⟨flag, value⟩ := option
    rw [List.map_cons, List.nodup_cons] at once
    obtain ⟨next, taken, added⟩ := reads.option takes (accepted _ (.head _)) (new _ (.head _))
    obtain ⟨last, others, all⟩ := ih added (fun other member => accepted other (.tail _ member)) once.2
      fun other member => by
        rw [List.mem_cons, not_or]
        exact ⟨fun same => once.1 (List.mem_map.mpr ⟨other, member, same⟩), new other (.tail _ member)⟩
    refine ⟨last, ?_, ?_⟩
    · rw [CommandLine.words, List.map_cons, List.foldlM_cons, taken]
      exact others
    · rw [Flag.lookup_or_update once.1] at all
      simpa using all

/-- An option with an invalid value is an error. -/
theorem option_refused (reads : parsing.Reads text given kind count) (takes : subcommand.takesFlags = true)
    {flag : Flag} {value : String} (refused : flag.accepts value = false) :
    ∃ error, parsing.word subcommand (flag.word value) = .error error := by
  -- It is an error for being repeated or for its value.
  obtain ⟨error, refused⟩ := Flag.setFlag_refused refused
  rw [reads.word_eq_take takes]
  by_cases again : flag ∈ given
  · exact ⟨.repeated (.flag flag), by simp [take, again]⟩
  · exact ⟨error, by simp [take, again, refused]⟩

/-- Distinct new options, one of which has an invalid value, are an error. -/
theorem options_refused (reads : parsing.Reads text given kind count) (takes : subcommand.takesFlags = true)
    {options : List (Flag × String)} (refused : ∃ option ∈ options, option.1.accepts option.2 = false)
    (once : (options.map Prod.fst).Nodup) (new : ∀ option ∈ options, option.1 ∉ given) :
    ∃ error, (CommandLine.words options).foldlM (fun parsing word => parsing.word subcommand word) parsing =
      .error error := by
  -- The options up to the first invalid one are accepted, and it ends the parsing.
  induction options generalizing parsing text given with
  | nil => simp at refused
  | cons option rest ih =>
    obtain ⟨flag, value⟩ := option
    rw [List.map_cons, List.nodup_cons] at once
    rw [CommandLine.words, List.map_cons, List.foldlM_cons]
    cases verdict : flag.accepts value with
    | false =>
      obtain ⟨error, ended⟩ := reads.option_refused takes verdict
      exact ⟨error, by rw [ended]; rfl⟩
    | true =>
      obtain ⟨next, taken, added⟩ := reads.option takes verdict (new _ (.head _))
      rw [taken]
      refine ih added ?_ once.2 fun other member => ?_
      · simpa [verdict] using refused
      · rw [List.mem_cons, not_or]
        exact ⟨fun same => once.1 (List.mem_map.mpr ⟨other, member, same⟩), new other (.tail _ member)⟩

/-- An alias of a kind of secret is read as the positional argument. -/
theorem kindWord (reads : parsing.Reads text given none 0) {word : String} {kind : SecretKind}
    (selects : SecretKind.ofText? word = some kind) :
    ∃ next, parsing.word .list word = .ok next ∧ next.Reads text given (some kind) 1 := by
  -- It is not an option by its shape, and no option is waiting for a value.
  have plain : Shape.ofWord word = .plain := by
    have first := SecretKind.head_ne_dash selects
    unfold Shape.ofWord
    split <;> simp_all
  have quiet : parsing.awaitsValue = false := by
    have settles := reads.settles
    unfold settle at settles
    unfold awaitsValue
    split
    · rename_i waiting
      rw [waiting] at settles
      cases settles
    · rfl
  refine ⟨⟨Flag.settingsOf text, none, given, some (.kind, some word), 1, false⟩, ?_, rfl, rfl, ?_⟩
  · simp [Parsing.word, reads.undivided, plain, quiet, plainWord, reads.words, reads.settles]
  · simp [settle, take, selects]

end Reads

end Parsing

end CommandLine

end AccessProbe
