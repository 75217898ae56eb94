import AccessProbe.DefaultHeaders
import AccessProbe.Errand
import AccessProbe.Http.Status
import AccessProbe.SecretKind

/-! The errors of the work with a server, with their messages. -/

namespace AccessProbe

/-- Why there is no client. -/
inductive ClientError where
  /-- The token is no valid header value. -/
  | authorization
  /-- The header file gives no headers. -/
  | headers (cause : HeaderError)
  /-- The library cannot build the client, with the causes it gives. -/
  | builder (causes : List String)
  deriving DecidableEq, Repr

/-- The error chain, outermost message first. -/
def ClientError.chain : ClientError → List String
  | .authorization => ["Could not build authorization header", "failed to parse header value"]
  | .headers cause => cause.chain
  | .builder causes => "Could not build the HTTP client" :: causes

/-- Why the work with a server fails. -/
inductive ProbeError where
  /-- The report is full. -/
  | output
  /-- There is no client. -/
  | client (cause : ClientError)
  /-- There is no client for the verification. -/
  | initialization (cause : ClientError)
  /-- The URL of an endpoint cannot be built. -/
  | endpoint (cause : EndpointError)
  /-- A request gets no response. -/
  | sending (errand : Errand) (url : Url) (cause : SendError)
  /-- The body of a response cannot be read. -/
  | reading (url : Url) (cause : BodyError)
  /-- Some of the attempts with the token failed. -/
  | incomplete (failed : Nat)
  /-- A private endpoint answers with status 401. -/
  | unauthorized
  /-- A request of the verification gets no response. -/
  | unsent (cause : SendError)
  deriving DecidableEq, Repr

namespace ProbeError

/-- The error chain, outermost message first. -/
def chain : ProbeError → List String
  | .output => ["output limit reached"]
  | .client cause => cause.chain
  | .initialization cause => "Could not initialize authentication" :: cause.chain
  | .endpoint cause => cause.chain
  | .sending errand url cause => ("Error sending " ++ errand.name ++ " to " ++ url.text) :: cause.chain
  | .reading url cause => ("Error reading the response from " ++ url.text) :: cause.chain
  | .incomplete failed =>
    [toString failed ++ " of " ++ toString tokenPaths.length ++ " requests could not be completed"]
  | .unauthorized => ["Could not authenticate: " ++ Status.text Status.unauthorized]
  | .unsent cause => "Error sending request to the server" :: cause.chain

/-- The error chain in one line. -/
def line (error : ProbeError) : String := String.intercalate ": " error.chain

end ProbeError

end AccessProbe
