import AccessProbe.Credentials
import AccessProbe.Http.Headers

/-! How requests authenticate. -/

namespace AccessProbe

/-- The way a command authenticates. -/
inductive Mode where
  | none
  /-- By the cookies that the server sets at the login. -/
  | session
  /-- By the token header. -/
  | token
  deriving DecidableEq, Repr

/-- How the requests of a client authenticate, with what that takes. -/
inductive Authentication where
  | none
  /-- By the cookies that the server sets at the login. -/
  | session
  /-- By this value of the token header. -/
  | token (value : String)
  deriving DecidableEq, Repr

namespace Authentication

/-- Only the token is made of the configuration. -/
def ofMode (mode : Mode) (config : Configuration) : Authentication :=
  match mode with
  | .none => .none
  | .session => .session
  -- The token is computed once, when the client is set up.
  | .token => .token config.credentials.token

/-- The default headers of an authentication, or nothing if the token is no valid header value. -/
def headers? : Authentication → Option Headers
  | .none | .session => some []
  | .token value => if isHeaderValue value then some [("x-cenarius-token", value)] else .none

/-- The debug output of an authentication. -/
def text : Authentication → String
  | .none => "None"
  | .session => "Session"
  | .token value => "Token(" ++ quoted value ++ ")"

end Authentication

end AccessProbe
