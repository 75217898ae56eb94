import Mathlib.Data.List.Nodup
import Mathlib.Data.List.Perm.Basic
import AccessProbe.Proofs.CommandLine.Options

/-! Environment variables stand in for the options that are not given. -/

namespace AccessProbe.CommandLine

namespace Flag

/-- The value of the environment variable of an option, if it has one and that is set. -/
def inEnvironment? (env : List (String × String)) (flag : Flag) : Option String :=
  flag.environmentName?.bind fun name => env.lookup name

/-- The usage error for the variable of an option that is not given, if its value is invalid. -/
def refusal? (env : List (String × String)) (text : Flag → Option String) (flag : Flag) : Option UsageError :=
  match text flag, flag.inEnvironment? env with
  | none, some value =>
    match setFlag .empty flag value with
    | .error error => some error
    | .ok _ => none
  | _, _ => none

/-- The values of options, with the environment variables of the listed ones as defaults. -/
def filled (env : List (String × String)) (text : Flag → Option String) (flags : List Flag) (flag : Flag) :
    Option String :=
  (text flag).or (if flag ∈ flags then flag.inEnvironment? env else none)

variable {env otherEnv : List (String × String)} {text : Flag → Option String} {flag : Flag} {value : String}

/-- A variable that is not set, or whose option is given, is never invalid. -/
theorem refusal?_shadowed (shadowed : flag.inEnvironment? env = none ∨ (text flag).isSome = true) :
    flag.refusal? env text = none := by
  -- `refusal?` looks at a variable that is set for an option that is not given, which the assumption
  -- excludes.
  unfold refusal?
  split
  · rename_i absent set
    rcases shadowed with unset | given
    · rw [unset] at set
      cases set
    · rw [absent] at given
      cases given
  · rfl

/-- An option is not refused if and only if it is given, or its variable is not set or valid. -/
theorem refusal?_eq_none_iff :
    flag.refusal? env text = none ↔
      (text flag = none → ∀ value, flag.inEnvironment? env = some value → flag.accepts value = true) := by
  -- Cases as in `refusal?`: only with no value given and the variable set is the value checked.
  cases given : text flag with
  | some own => simp [refusal?_shadowed (.inr (by simp [given] : (text flag).isSome = true))]
  | none =>
    cases set : flag.inEnvironment? env with
    | none => simp [refusal?_shadowed (.inl set)]
    | some value =>
      cases verdict : flag.accepts value with
      | true =>
        have taken := setFlag_settingsOf verdict fun _ => none
        have nothing : settingsOf (fun _ => none) = .empty := rfl
        rw [nothing] at taken
        simp [refusal?, given, set, taken, verdict]
      | false =>
        obtain ⟨error, refused⟩ := setFlag_refused verdict
        simp [refusal?, given, set, refused, verdict]

/-- Only the variables of options that are not given matter. -/
theorem refusal?_congr (agree : text flag = none → flag.inEnvironment? otherEnv = flag.inEnvironment? env) :
    flag.refusal? otherEnv text = flag.refusal? env text := by
  cases given : text flag with
  | some own => simp [refusal?, given]
  | none => simp [refusal?, given, agree given]

/-- Once the value of a valid variable is that of its option, it is not checked again. -/
theorem refusal?_update (passes : flag.refusal? env text = none) (value : String) :
    refusal? env (Function.update text flag (some value)) = refusal? env text := by
  funext other
  by_cases same : other = flag
  · subst same
    rw [passes]
    exact refusal?_shadowed (.inr (by simp))
  · simp [refusal?, Function.update_of_ne same]

/-- A variable that is not set, or whose option is given, fills in nothing. -/
theorem filled_cons_of_shadowed (shadowed : flag.inEnvironment? env = none ∨ (text flag).isSome = true)
    (rest : List Flag) : filled env text (flag :: rest) = filled env text rest := by
  funext other
  by_cases same : other = flag
  · subst same
    rcases shadowed with unset | given
    · simp [filled, unset]
    · obtain ⟨own, given⟩ := Option.isSome_iff_exists.mp given
      simp [filled, given]
  · simp [filled, same]

/-- The variable of an option that is not given is filled in like a value of the option. -/
theorem filled_update (set : flag.inEnvironment? env = some value) (absent : text flag = none)
    (rest : List Flag) :
    filled env (Function.update text flag (some value)) rest = filled env text (flag :: rest) := by
  funext other
  by_cases same : other = flag
  · subst same
    simp [filled, absent, set]
  · simp [filled, same]

end Flag

namespace Parsing

variable {env : List (String × String)} {parsing : Parsing} {flag : Flag} {text : Flag → Option String}

/-- The settings and the given options so far are those of these option values. -/
structure Holds (parsing : Parsing) (text : Flag → Option String) : Prop where
  /-- The settings have these values. -/
  settings : parsing.settings = Flag.settingsOf text
  /-- The options given are those with a value. -/
  given : ∀ flag, flag ∈ parsing.given ↔ (text flag).isSome = true

namespace Holds

/-- A variable that is not set, or whose option is given, changes nothing. -/
theorem shadowed (holds : parsing.Holds text)
    (shadowed : flag.inEnvironment? env = none ∨ (text flag).isSome = true) :
    fromEnvironment env parsing flag = .ok parsing := by
  -- Either the lookup fails, or the option is found among those given.
  rcases shadowed with unset | given
  · have unset : flag.environmentName?.bind (List.lookup · env) = none := unset
    rw [fromEnvironment, unset]
  · have known : parsing.given.contains flag = true := List.contains_iff_mem.mpr ((holds.given flag).mpr given)
    rw [fromEnvironment, known]
    split <;> rfl

/-- A variable that is set is read like its option, if that is not given. -/
theorem stands_in (holds : parsing.Holds text) {value : String} (set : flag.inEnvironment? env = some value)
    (absent : text flag = none) : fromEnvironment env parsing flag =
      (setFlag (Flag.settingsOf text) flag value).map fun settings =>
        { parsing with settings, given := flag :: parsing.given } := by
  -- The option is not among those given, so its variable goes through `take`.
  have set : flag.environmentName?.bind (List.lookup · env) = some value := set
  have new : parsing.given.contains flag = false := by
    simpa [absent] using holds.given flag
  rw [fromEnvironment, set]
  dsimp only [take]
  rw [new, holds.settings]
  cases setFlag (Flag.settingsOf text) flag value <;> rfl

/-- Adding a value keeps settings and given options in step. -/
theorem update (holds : parsing.Holds text) (flag : Flag) (value : String) :
    Holds { parsing with
      settings := Flag.settingsOf (Function.update text flag (some value))
      given := flag :: parsing.given } (Function.update text flag (some value)) := by
  refine ⟨rfl, fun other => ?_⟩
  by_cases same : other = flag
  · simp [same]
  · simp [same, holds.given]

/-- The variables of the listed options are read in turn: the first invalid one is the error, and without one
they become defaults of the values. -/
theorem foldlM_fromEnvironment (holds : parsing.Holds text) (env : List (String × String)) (flags : List Flag) :
    match flags.findSome? (Flag.refusal? env text) with
    | some error => flags.foldlM (fromEnvironment env) parsing = .error error
    | none => ∃ last, flags.foldlM (fromEnvironment env) parsing = .ok last ∧
        last.Holds (Flag.filled env text flags) ∧ last.kind = parsing.kind := by
  -- Induction on the options that are left, with the values so far as invariant.
  induction flags generalizing parsing text with
  | nil =>
    have same : Flag.filled env text [] = text := by
      funext other
      simp [Flag.filled]
    exact ⟨parsing, rfl, by rw [same]; exact holds, rfl⟩
  | cons flag rest ih =>
    by_cases shadowed : flag.inEnvironment? env = none ∨ (text flag).isSome = true
    · -- Nothing changes: the option has the same value with or without its variable.
      rw [List.findSome?_cons, Flag.refusal?_shadowed shadowed, List.foldlM_cons, holds.shadowed shadowed,
        Flag.filled_cons_of_shadowed shadowed]
      exact ih holds
    · push Not at shadowed
      obtain ⟨value, set⟩ := Option.ne_none_iff_exists'.mp shadowed.1
      have absent : text flag = none := by simpa using shadowed.2
      cases verdict : flag.accepts value with
      | false =>
        obtain ⟨error, refused⟩ := Flag.setFlag_refused verdict
        have fails : flag.refusal? env text = some error := by simp [Flag.refusal?, absent, set, refused]
        rw [List.findSome?_cons, fails, List.foldlM_cons, holds.stands_in set absent, refused]
        rfl
      | true =>
        have passes : flag.refusal? env text = none := Flag.refusal?_eq_none_iff.mpr fun _ other this => by
          rw [set] at this
          cases this
          exact verdict
        have taken := holds.stands_in set absent
        rw [Flag.setFlag_settingsOf verdict text] at taken
        -- From here on the value of the variable is that of the option.
        have others := ih (holds.update flag value)
        rw [Flag.refusal?_update passes, Flag.filled_update set absent] at others
        rw [List.findSome?_cons, passes, List.foldlM_cons, taken]
        exact others

end Holds

end Parsing

end AccessProbe.CommandLine
