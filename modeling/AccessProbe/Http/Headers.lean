/-! Header fields of requests, sorted by their names, which are in lower case and unique. -/

namespace AccessProbe

/-- Header fields sorted by name. -/
abbrev Headers := List (String × String)

namespace Headers

def get? (headers : Headers) (name : String) : Option String := headers.lookup name

/-- Sets the value of a field. -/
def insert (name value : String) : Headers → Headers
  | [] => [(name, value)]
  | (other, held) :: rest =>
    if name < other then (name, value) :: (other, held) :: rest
    else if name = other then (name, value) :: rest
    else (other, held) :: insert name value rest

/-- Sets the value of a field that has none. -/
def withDefault (headers : Headers) (name value : String) : Headers :=
  if (headers.get? name).isSome then headers else headers.insert name value

/-- Removes a field. -/
def erase (headers : Headers) (name : String) : Headers := headers.filter (·.1 ≠ name)

/-- Sets the values of other fields. -/
def extend (headers others : Headers) : Headers :=
  others.foldl (fun headers (name, value) => headers.insert name value) headers

end Headers

/-- The characters of a header name. -/
def isHeaderNameChar (c : Char) : Bool :=
  c.isAlphanum || "!#$%&'*+-.^_\x60|~".toList.contains c

/-- A header name in lower case, unless the string is no header name. -/
def headerName? (text : String) : Option String :=
  let name := text.toList
  if name.isEmpty || 65535 < name.length || !name.all isHeaderNameChar then none
  else some (String.ofList (name.map Char.toLower))

/-- Whether a string is a header value: tabs are its only control characters. -/
def isHeaderValue (text : String) : Bool :=
  -- Characters beyond ASCII are sent as UTF-8 and accepted.
  text.toList.all fun c => c = '\t' || (0x20 ≤ c.toNat && c.toNat ≠ 0x7F)

end AccessProbe
