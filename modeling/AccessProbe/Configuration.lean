import AccessProbe.Duration
import AccessProbe.Files
import AccessProbe.Settings

/-! The configuration, and how it is loaded from options, environment and file. -/

namespace AccessProbe

/-- The configuration of a run, with a default in place of every setting that is missing. -/
structure Configuration where
  target : Url
  /-- The login, which is not empty. -/
  login : String
  password : String
  /-- The path of the header file. -/
  header : Option String
  /-- The time limit of a request in milliseconds. -/
  requestTimeout : Option Nat
  logLevel : Verbosity
  deriving DecidableEq, Repr

/-- Why a file that has been opened cannot be read. -/
inductive ContentError where
  /-- It is no regular file, for example. -/
  | file (cause : FileError)
  /-- Its content is no valid YAML of the expected shape. -/
  | text (cause : Yaml.Error)
  deriving DecidableEq, Repr

def ContentError.message : ContentError → String
  | .file cause => cause.message
  | .text cause => cause.message

/-- Why a configuration cannot be loaded. -/
inductive LoadError where
  /-- The configuration file cannot be opened. -/
  | opening (path : String) (cause : FileError)
  /-- The configuration file cannot be parsed. -/
  | parsing (path : String) (cause : ContentError)
  /-- The default target is refused. -/
  | target (cause : TargetError)
  /-- The login is empty. -/
  | emptyLogin
  deriving DecidableEq, Repr

/-- The error chain, outermost message first. -/
def LoadError.chain : LoadError → List String
  | .opening path cause => ["Error opening configuration file " ++ quoted path, cause.message]
  | .parsing path cause => ["Error parsing configuration file " ++ quoted path, cause.message]
  | .target cause => [cause.message]
  | .emptyLogin => ["The login can not be empty"]

namespace Configuration

/-- The time limit of a request, if there is one. -/
def timeLimit (config : Configuration) : Option Duration := config.requestTimeout.map .ofMillis

/-- The default login. -/
def defaultLogin : String := "python3"

/-- The default password. -/
def defaultPassword : String := "python3password"

/-- Reads a file and parses its bytes. -/
def readContent {α : Type} (entry : FileEntry) (read : List UInt8 → Except Yaml.Error α) :
    Except ContentError α :=
  match entry.read with
  | .error cause => .error (.file cause)
  | .ok bytes =>
    match read bytes with
    | .error cause => .error (.text cause)
    | .ok value => .ok value

/-- The settings in a configuration file. -/
def settingsIn (files : Files) (path : String) : Except LoadError Settings :=
  match files.entry path with
  | .error cause => .error (.opening path cause)
  | .ok entry =>
    match readContent entry Settings.ofBytes with
    | .error cause => .error (.parsing path cause)
    | .ok settings => .ok settings

/-- Merges the given settings with those of the configuration file that they name. -/
def merged (files : Files) (given : Settings) : Except LoadError Settings :=
  match given.config with
  | none => .ok given
  -- The options and variables win over the file.
  | some path => (settingsIn files path).map given.orElse

/-- Completes settings with the defaults and checks the login. -/
def ofSettings (settings : Settings) : Except LoadError Configuration :=
  let login := settings.login.getD defaultLogin
  -- The login is checked after the merge, so that an empty one is refused wherever it comes from.
  if login = "" then .error .emptyLogin
  else
    -- The default target is parsed only where none is given.
    match settings.target.elim (readTarget defaultTarget) .ok with
    | .error cause => .error (.target cause)
    | .ok target => .ok {
        target
        login
        password := settings.password.getD defaultPassword
        header := settings.header
        requestTimeout := settings.requestTimeout
        logLevel := settings.logLevel.getD .info }

/-- Loads the configuration for given settings. -/
def load (files : Files) (given : Settings) : Except LoadError Configuration :=
  (merged files given).bind ofSettings

end Configuration

end AccessProbe
