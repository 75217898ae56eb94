import AccessProbe.Log
import AccessProbe.Target
import AccessProbe.Yaml.Reading

/-! Settings of which any may be missing, and how they are read from YAML. -/

namespace AccessProbe

/-- The settings of one source, any of which may be missing. -/
structure Settings where
  /-- The path of the configuration file. -/
  config : Option String
  /-- The URL of the server. -/
  target : Option Url
  login : Option String
  password : Option String
  /-- The path of the header file. -/
  header : Option String
  /-- The time limit of a request in milliseconds. -/
  requestTimeout : Option Nat
  logLevel : Option Verbosity
  deriving DecidableEq, Repr

namespace Settings

/-- No settings at all. -/
def empty : Settings := ⟨none, none, none, none, none, none, none⟩

/-- The first settings, with those of the second where the first have none. -/
def orElse (first second : Settings) : Settings :=
  { config := first.config.or second.config
    target := first.target.or second.target
    login := first.login.or second.login
    password := first.password.or second.password
    header := first.header.or second.header
    requestTimeout := first.requestTimeout.or second.requestTimeout
    logLevel := first.logLevel.or second.logLevel }

/-- The keys of a configuration file, which cannot name another one. -/
inductive Field where
  | target
  | login
  | password
  | header
  | requestTimeout
  | logLevel
  deriving DecidableEq, Repr

namespace Field

/-- Every field, in the order in which messages list them. -/
def all : List Field := [.target, .login, .password, .header, .requestTimeout, .logLevel]

/-- The key of a field. -/
def key : Field → String
  | .target => "target"
  | .login => "login"
  | .password => "password"
  | .header => "header"
  | .requestTimeout => "request_timeout"
  | .logLevel => "log_level"

def ofKey? (key : String) : Option Field := all.find? (·.key = key)

end Field

open Yaml

/-- The field that a key names. -/
def readField (document : Document) (key : Node) : Except Yaml.Error Field := do
  let name ← readString "field identifier" none document key
  -- Keys have to match exactly.
  match Field.ofKey? name with
  | some field => return field
  | none =>
    throw (.value none ("unknown field \x60" ++ name ++ "\x60, expected one of "
      ++ choiceNames (Field.all.map Field.key)) (document.target key).mark)

/-- Reads the target. A URL that is refused is reported at the start of the mapping. -/
def readTargetValue (start : Mark) (path : Option String) : Reader (Option Url) := fun document node => do
  match ← readOption start (readString "a string" path) document node with
  | none => return none
  | some text =>
    match readTarget text with
    | .ok url => return some url
    | .error error => throw (.value none error.message start)

def readVerbosity (path : Option String) : Reader Verbosity :=
  readChoice path (Verbosity.all.map Verbosity.name) Verbosity.ofText?

/-- Reads the value of a field. -/
def readValue (start : Mark) (path : Option String) (document : Document) (settings : Settings)
    (field : Field) (node : Node) : Except Yaml.Error Settings := do
  match field with
  | .target => return { settings with target := ← readTargetValue start path document node }
  | .login => return { settings with login := ← readOption start (readString "a string" path) document node }
  | .password =>
    return { settings with password := ← readOption start (readString "a string" path) document node }
  | .header =>
    return { settings with header := ← readOption start (readString "path string" path) document node }
  | .requestTimeout =>
    return { settings with requestTimeout := ← readOption start (readNumber path) document node }
  | .logLevel =>
    return { settings with logLevel := ← readOption start (readVerbosity path) document node }

/-- The fields read so far and their settings. -/
abbrev Draft := List Field × Settings

/-- Reads an entry of the mapping, whose field may not be repeated. -/
def readEntry (start : Mark) : EntryReader Draft := fun document (named, settings) key value => do
  let field ← readField document key
  -- A repeated field is refused before its second value is looked at.
  if named.contains field then
    throw (.value none ("duplicate field \x60" ++ field.key ++ "\x60") start)
  let node ← document.valueNode value
  let settings ← readValue start (entryPath key) document settings field node
  return (field :: named, settings)

/-- The settings in a YAML document. -/
def ofDocument (document : Document) : Except Yaml.Error Settings :=
  (readMapping "struct PartialConfiguration" readEntry ([], empty) document).map (·.2)

/-- The settings in the bytes of a file. -/
def ofBytes (bytes : List UInt8) : Except Yaml.Error Settings := (Text.ofBytes bytes).read ofDocument

end Settings

end AccessProbe
