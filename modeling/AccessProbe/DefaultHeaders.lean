import AccessProbe.Configuration
import AccessProbe.Http.Headers
import AccessProbe.Version

/-! The header file, whose header fields every request carries. -/

namespace AccessProbe

/-- Why the header file gives no header fields. -/
inductive HeaderError where
  /-- It cannot be opened. -/
  | opening (path : String) (cause : FileError)
  /-- It is no YAML mapping of strings to strings. -/
  | parsing (cause : ContentError)
  /-- A key is no header name. -/
  | name (key : String)
  /-- A value is no header value. -/
  | value (text : String)
  deriving DecidableEq, Repr

/-- The error chain, outermost message first. -/
def HeaderError.chain : HeaderError → List String
  | .opening path cause => ["Failed to open default header file " ++ path, cause.message]
  | .parsing cause => ["Failed to parse default header file as YAML", cause.message]
  | .name key => ["Can't parse " ++ key ++ " as header name", "invalid HTTP header name"]
  | .value text => ["Can't parse " ++ text ++ " as header value", "failed to parse header value"]

/-- Inserts an entry of the header file. -/
def addHeader (headers : Headers) (entry : String × String) : Except HeaderError Headers :=
  match headerName? entry.1 with
  | none => .error (.name entry.1)
  | some name =>
    -- The names in lower case are compared, so that a later spelling of a name replaces an earlier one.
    if isHeaderValue entry.2 then .ok (headers.insert name entry.2) else .error (.value entry.2)

/-- The header fields of the entries, inserted behind the default `user-agent`. -/
def headersOf (entries : List (String × String)) : Except HeaderError Headers :=
  entries.foldlM addHeader [("user-agent", userAgent)]

/-- The entries of the header file, if there is one. -/
def headerEntries (files : Files) : Option String → Except HeaderError (List (String × String))
  | none => .ok []
  | some path =>
    match files.entry path with
    | .error cause => .error (.opening path cause)
    | .ok entry =>
      match Configuration.readContent entry fun bytes => (Yaml.Text.ofBytes bytes).read Yaml.readStrings with
      | .error cause => .error (.parsing cause)
      | .ok entries => .ok entries

/-- The header fields of the header file with the default ones. -/
def defaultHeaders (files : Files) (path : Option String) : Except HeaderError Headers :=
  (headerEntries files path).bind headersOf

end AccessProbe
