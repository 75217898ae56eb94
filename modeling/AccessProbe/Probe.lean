import AccessProbe.Authentication
import AccessProbe.Plan

/-! The work with a server: session, token, registration and listing of secrets. -/

namespace AccessProbe

/-- The warning that the token goes over plain http. -/
def plainTokenRecord (target : Url) : LogRecord :=
  ⟨.warn, .authentication,
    "Sending credentials in the " ++ tokenHeader ++ " header over plain http to " ++ target.text⟩

/-- The default headers of a client. Those of the header file replace all others. -/
def clientHeaders (files : Files) (config : Configuration) (authentication : Authentication) :
    Except ClientError Headers :=
  match authentication.headers? with
  | none => .error .authorization
  | some own =>
    -- The header file is only read once the token is known to be a valid header value.
    match defaultHeaders files config.header with
    | .error cause => .error (.headers cause)
    | .ok others => .ok (own.extend others)

/-- Only the scheme of the target counts, wherever redirects may lead. -/
def showsTokenPlainly (target : Url) : Authentication → Bool
  | .token _ => target.scheme = "http"
  | _ => false

/-- Builds a client, which the library may refuse. -/
def Library.client (library : Library) (timeLimit : Option Duration) (defaults : Headers) :
    Except ClientError Client :=
  match library.fault? with
  | some causes => .error (.builder causes)
  | none => .ok ⟨defaults, timeLimit, library⟩

/-- Builds the client for a configuration. -/
def buildClient (library : Library) (files : Files) (config : Configuration)
    (authentication : Authentication) : Except ClientError Client :=
  -- The header file is read before the library is asked for anything.
  (clientHeaders files config authentication).bind (library.client config.timeLimit)

/-- Builds the client, with a warning about the token before anything can fail. -/
def prepareClient (library : Library) (files : Files) (config : Configuration)
    (authentication : Authentication) : Plan (Except ClientError Client) := do
  if showsTokenPlainly config.target authentication then .tell (plainTokenRecord config.target)
  return buildClient library files config authentication

/-- A client for the server of a configuration and one of its users. -/
structure Probe where
  /-- The URL of the server. -/
  target : Url
  credentials : Credentials
  client : Client

namespace Probe

/-- Prepares a probe that authenticates in the given mode. -/
def prepare (library : Library) (files : Files) (config : Configuration) (mode : Mode) : Plan Probe := do
  match ← prepareClient library files config (.ofMode mode config) with
  | .error cause => .fail (.client cause)
  | .ok client => return ⟨config.target, config.credentials, client⟩

/-- Makes a request and reads the response. A failure is a value here and ends nothing. -/
def attempt (probe : Probe) (errand : Errand) : Plan (Except ProbeError Received) := do
  match endpointUrl probe.target errand.path with
  | .error cause => return .error (.endpoint cause)
  | .ok url =>
    -- The record comes first, so that a request that fails is logged too.
    .tell (errand.record probe.credentials url)
    match ← Plan.ask probe.client (errand.call probe.credentials url) with
    | .error cause => return .error (.sending errand url cause)
    | .ok reply => return (← Plan.await reply.received).mapError (.reading url)

/-- Makes a request whose failure ends the work. -/
def fetch (probe : Probe) (errand : Errand) : Plan Received := do .ofExcept (← probe.attempt errand)

/-- The line of a response in the report, with the body as it is. -/
def responseLine (received : Received) : String := toString received.status ++ " " ++ received.text ++ "\n"

/-- The line with the cookies of a response. -/
def cookieLine (received : Received) : String :=
  "cookies: [" ++ String.intercalate ", " received.cookies ++ "]\n"

/-- The line of a failed request. -/
def errorLine (error : ProbeError) : String := "error " ++ error.line ++ "\n"

/-- Reports a response. -/
def report (received : Received) : Plan Unit := do
  .tell ⟨.debug, .probe, "Response status: " ++ Status.text received.status⟩
  .say (responseLine received)

/-- Reports a response with the cookies that it sets. -/
def reportWithCookies (received : Received) : Plan Unit := do
  report received
  .say (cookieLine received)

/-- Logs in and calls the health endpoint with the cookies of the login. -/
def session (probe : Probe) : Plan Unit := do
  reportWithCookies (← probe.fetch .login)
  reportWithCookies (← probe.fetch (.look healthPath))

/-- Reports the outcome of an attempt, and counts a failure. -/
def reportAttempt : Except ProbeError Received → Plan Nat
  | .ok received => do
    report received
    return 0
  | .error error => do
    .tell ⟨.error, .probe, error.line⟩
    .say (errorLine error)
    return 1

/-- Attempts the given paths in order and counts the failures. -/
def countFailures (probe : Probe) : List String → Plan Nat
  | [] => return 0
  | path :: rest => do
    -- A failure is counted and the other paths are still attempted.
    let failed ← reportAttempt (← probe.attempt (.look path))
    return failed + (← probe.countFailures rest)

/-- Attempts three private paths with the token. -/
def token (probe : Probe) : Plan Unit := do
  let failed ← probe.countFailures tokenPaths
  if failed = 0 then return () else .fail (.incomplete failed)

/-- Registers the user. -/
def register (probe : Probe) : Plan Unit := do report (← probe.fetch .registration)

/-- Lists the secrets of a kind. -/
def list (probe : Probe) (kind : SecretKind) : Plan Unit := do
  .tell ⟨.info, .probe, "Listing secrets of type " ++ kind.text⟩
  report (← probe.fetch (.look kind.listPath))

end Probe

end AccessProbe
