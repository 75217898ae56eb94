import AccessProbe.Url.Resolve

/-! The endpoints of the server and their URLs. -/

namespace AccessProbe

/-- A URL that could not be built. -/
structure EndpointError where
  /-- The path of the endpoint. -/
  path : String
  /-- The URL of the server. -/
  target : Url
  /-- Why the path cannot be resolved. -/
  cause : Url.ParseError
  deriving DecidableEq, Repr

/-- The error chain, outermost message first. -/
def EndpointError.chain (error : EndpointError) : List String :=
  ["Can't build an URL for " ++ error.path ++ " on " ++ error.target.text, error.cause.message]

/-- The endpoint for the login. -/
def loginPath : String := "api/v1/user/login"

/-- The endpoint for the registration. -/
def registerPath : String := "api/v1/user/register"

/-- The health endpoint. -/
def healthPath : String := "api/v1/private/health"

/-- A URL with a slash at the end of its path. -/
def Url.asDirectory (url : Url) : Url :=
  let text := url.path.letters
  -- Without the slash, resolving a path would replace the last segment.
  if text.getLast? = some '/' then url else url.withPathText (text ++ ['/'])

/-- The URL of an endpoint, below the path of the server. -/
def endpointUrl (target : Url) (path : String) : Except EndpointError Url :=
  match target.asDirectory.join path with
  | .ok url => .ok url
  | .error cause => .error ⟨path, target, cause⟩

end AccessProbe
