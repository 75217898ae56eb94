import AccessProbe.Credentials
import AccessProbe.Endpoint
import AccessProbe.Http.Client
import AccessProbe.Log

/-! The requests of a probe, their content and their log records. -/

namespace AccessProbe

/-- What a request is made for. -/
inductive Errand where
  /-- To log in. -/
  | login
  /-- To register the user. -/
  | registration
  /-- To get the resource at a path. -/
  | look (path : String)
  deriving DecidableEq, Repr

namespace Errand

/-- The path of the endpoint. -/
def path : Errand → String
  | .login => loginPath
  | .registration => registerPath
  | .look path => path

/-- The body of a request: the credentials as JSON, or nothing for a GET request. -/
def content (credentials : Credentials) : Errand → Option (List UInt8)
  | .login | .registration => some (Utf8.encode credentials.json)
  | .look _ => none

/-- The request of an errand. -/
def call (errand : Errand) (credentials : Credentials) (url : Url) : Call :=
  ⟨url, errand.content credentials⟩

/-- The log record that announces a request. -/
def record (errand : Errand) (credentials : Credentials) (url : Url) : LogRecord :=
  match errand with
  -- The password is never part of a record.
  | .login => ⟨.debug, .session, "POST " ++ url.text ++ " as " ++ credentials.login⟩
  | .registration => ⟨.debug, .session, "POST " ++ url.text ++ " registering " ++ credentials.login⟩
  | .look _ => ⟨.debug, .probe, "GET " ++ url.text⟩

/-- What error messages call a request. -/
def name : Errand → String
  | .login => "login request"
  | .registration => "registration request"
  | .look _ => "request"

end Errand

/-- A response whose body has been read. -/
structure Received where
  status : Nat
  /-- The name-value pairs of the `set-cookie` fields. -/
  cookies : List String
  /-- The decoded body. -/
  text : String
  deriving DecidableEq, Repr

/-- A reply with its body, unless reading it fails or takes for ever. -/
def Reply.received (reply : Reply) : Option (Except BodyError Received) :=
  reply.text.map fun
    | .ok text => .ok ⟨reply.status, reply.cookies, text⟩
    | .error error => .error error

end AccessProbe
