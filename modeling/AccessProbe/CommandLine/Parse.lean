import AccessProbe.CommandLine.Basic

/-! Parsing the command line, with the environment as a fallback for its options. -/

namespace AccessProbe.CommandLine

/-- How a word of the command line looks. -/
inductive Shape where
  /-- Two dashes. Every word behind them is an argument. -/
  | divider
  /-- An option such as `--name` or `--name=value`. -/
  | long (name : String) (value : Option String)
  /-- A dash with at least one letter. -/
  | short (letter : Char)
  | plain
  deriving DecidableEq, Repr

def Shape.ofWord (word : String) : Shape :=
  match word.toList with
  | ['-', '-'] => .divider
  | '-' :: '-' :: rest =>
    let name := String.ofList (rest.takeWhile (· ≠ '='))
    match rest.dropWhile (· ≠ '=') with
    | [] => .long name none
    | _ :: value => .long name (some (String.ofList value))
  | '-' :: letter :: _ => .short letter
  | _ => .plain

/-- Checks the value of an option and stores it in the settings. -/
def setFlag (settings : Settings) (flag : Flag) (value : String) : Except UsageError Settings :=
  -- A file name may not be empty, while an empty login is only refused once everything is merged.
  let refuse := fun reason => Except.error (.invalidValue value (.flag flag) reason)
  match flag with
  | .config => if value = "" then .error (.noValue (.flag flag)) else .ok { settings with config := some value }
  | .header => if value = "" then .error (.noValue (.flag flag)) else .ok { settings with header := some value }
  | .login => .ok { settings with login := some value }
  | .password => .ok { settings with password := some value }
  | .target =>
    match readTarget value with
    | .ok target => .ok { settings with target := some target }
    | .error error => refuse error.message
  | .requestTimeout =>
    match Decimal.readNumber (Nat.pow 2 64) value.toList with
    | .ok number => .ok { settings with requestTimeout := some number }
    | .error error => refuse error.message
  | .logLevel =>
    match Verbosity.ofText? value with
    | some verbosity => .ok { settings with logLevel := some verbosity }
    | none => refuse "attempted to convert a string that doesn't match an existing log level"

/-- The state of the parser between two words. -/
structure Parsing where
  /-- The settings of the options that have been settled. -/
  settings : Settings
  kind : Option SecretKind
  /-- The options given so far, each of which may be given once. -/
  given : List Flag
  /-- The last argument, which is checked when the next one comes: its value may be that next word. -/
  pending : Option (Argument × Option String)
  /-- How many positional arguments have been taken. -/
  words : Nat
  /-- Whether two dashes have been read. -/
  divided : Bool
  deriving DecidableEq, Repr

namespace Parsing

/-- The state before the first word. -/
def start : Parsing := ⟨.empty, none, [], none, 0, false⟩

/-- Stores an argument: it needs a value, an option may not be repeated, and the value has to be valid. -/
def take (parsing : Parsing) (argument : Argument) (value : Option String) : Except UsageError Parsing :=
  match value, argument with
  | none, argument => .error (.noValue argument)
  | some value, .flag flag =>
    if parsing.given.contains flag then .error (.repeated (.flag flag))
    else
      match setFlag parsing.settings flag value with
      | .error error => .error error
      | .ok settings => .ok { parsing with settings, given := flag :: parsing.given }
  | some value, .kind =>
    match SecretKind.ofText? value with
    | some kind => .ok { parsing with kind := some kind }
    | none => .error (.invalidValue value .kind (SecretKind.unknownMessage value))

/-- Stores the pending argument. -/
def settle (parsing : Parsing) : Except UsageError Parsing :=
  match parsing.pending with
  | none => .ok parsing
  | some (argument, value) => { parsing with pending := none }.take argument value

/-- Whether the next word may be the value of the pending option. -/
def awaitsValue (parsing : Parsing) : Bool :=
  match parsing.pending with
  | some (.flag _, none) => true
  | _ => false

/-- Takes a positional argument, of which only `list` has one. -/
def plainWord (parsing : Parsing) (subcommand : Subcommand) (word : String) : Except UsageError Parsing :=
  if subcommand = .list ∧ parsing.words = 0 then
    -- Its value is checked later, like that of an option.
    match parsing.settle with
    | .error error => .error error
    | .ok parsing => .ok { parsing with pending := some (.kind, some word), words := 1 }
  else .error (.unexpected word)

/-- Takes a word as the value of the pending option. -/
def valueWord (parsing : Parsing) (word : String) : Parsing :=
  { parsing with pending := parsing.pending.map fun (argument, _) => (argument, some word) }

/-- Takes an option or `--help`. Only subcommands for the server know the options. -/
def longWord (parsing : Parsing) (subcommand : Subcommand) (name : String) (value : Option String) :
    Except UsageError Parsing :=
  match (Flag.ofLong? name).filter (fun _ => subcommand.takesFlags), value with
  | some flag, some value =>
    match parsing.settle with
    | .error error => .error error
    | .ok parsing => parsing.take (.flag flag) (some value)
  | some flag, none =>
    match parsing.settle with
    | .error error => .error error
    | .ok parsing => .ok { parsing with pending := some (.flag flag, none) }
  -- A name that is no option may still be `--help`, which takes no value.
  | none, value =>
    if name ≠ "help" then .error (.unexpected ("--" ++ name))
    else match value with
      | some value => .error (.unwantedValue value "--help")
      | none => parsing.settle.bind fun _ => .error (.help (some subcommand))

def word (parsing : Parsing) (subcommand : Subcommand) (word : String) : Except UsageError Parsing :=
  if parsing.divided then parsing.plainWord subcommand word
  -- A word that looks like an option is never the value of the option before it.
  else match Shape.ofWord word with
    | .divider => .ok { parsing with divided := true }
    | .long name value => parsing.longWord subcommand name value
    | .short letter =>
      if letter = 'h' then parsing.settle.bind fun _ => .error (.help (some subcommand))
      else .error (.unexpected (String.ofList ['-', letter]))
    | .plain =>
      if parsing.awaitsValue then .ok (parsing.valueWord word) else parsing.plainWord subcommand word

/-- Sets an option from its environment variable, unless the command line gives it. -/
def fromEnvironment (env : List (String × String)) (parsing : Parsing) (flag : Flag) :
    Except UsageError Parsing :=
  match flag.environmentName?.bind (List.lookup · env) with
  -- The value of a variable is checked like that of an option.
  | some value => if parsing.given.contains flag then .ok parsing else parsing.take (.flag flag) (some value)
  | none => .ok parsing

/-- Settles the last argument and lets the environment fill in the options that are not given. -/
def finish (parsing : Parsing) (subcommand : Subcommand) (env : List (String × String)) :
    Except UsageError Parsing := do
  let parsing ← parsing.settle
  if subcommand.takesFlags then Flag.all.foldlM (fromEnvironment env) parsing else return parsing

end Parsing

/-- Parses the words behind a subcommand. -/
def parseArguments (subcommand : Subcommand) (env : List (String × String)) (words : List String) :
    Except UsageError Command := do
  let parsing ← words.foldlM (fun parsing word => parsing.word subcommand word) Parsing.start
  -- The environment is read before `list` misses its argument.
  let parsing ← parsing.finish subcommand env
  match subcommand with
  | .session => return .run .session parsing.settings
  | .token => return .run .token parsing.settings
  | .register => return .run .register parsing.settings
  | .verifyAuth => return .run .verifyAuth parsing.settings
  | .list =>
    match parsing.kind with
    | some kind => return .run (.list kind) parsing.settings
    | none => throw .noKind
  | .version | .help => return .version

/-- Parses the words behind `help`. -/
def parseHelp : List String → UsageError
  | [] => .help none
  | word :: rest =>
    match Subcommand.ofWord? word, rest with
    | none, _ => .unknownSubcommand word
    | some subcommand, [] => .help (some subcommand)
    | some _, next :: _ => .unknownSubcommand next

/-- The error for a first word that is no subcommand. -/
def noSubcommand (word : String) : UsageError :=
  match Shape.ofWord word with
  | .divider => .noSubcommand
  | .long "help" none => .help none
  | .long "help" (some value) => .unwantedValue value "--help"
  | .long name _ => .unexpected ("--" ++ name)
  | .short 'h' => .help none
  | .short letter => .unexpected (String.ofList ['-', letter])
  | .plain => .unknownSubcommand word

/-- Parses the words of a command line. -/
def parse (env : List (String × String)) : List String → Except UsageError Command
  | [] => .error .noSubcommand
  | "--" :: word :: _ =>
    -- Behind two dashes even a subcommand is just a word.
    .error (if (Subcommand.ofWord? word).isSome then .unexpected word else .unknownSubcommand word)
  | word :: rest =>
    match Subcommand.ofWord? word with
    | some .help => .error (parseHelp rest)
    | some subcommand => parseArguments subcommand env rest
    | none => .error (noSubcommand word)

end AccessProbe.CommandLine
