import AccessProbe.Probe

/-! The verification of the credentials on every private endpoint. -/

namespace AccessProbe.Verification

/-- The rule above and below the verification. -/
def rule : String := String.ofList (List.replicate 77 '=')

/-- The opening of the verification. -/
def banner : String := "\n" ++ rule ++ "\n\n[*] Running authentication verification!\n\n\n"

/-- The description of the authentication, which shows the token at log level debug only. -/
def authenticatorText (verbosity : Verbosity) (token : String) : String :=
  "Response from authenticator:\n\tAuthentication mode:    Token\n\tHeader:                 " ++ tokenHeader
    ++ (if verbosity.shows .debug then ": " ++ token else "") ++ "\n"

/-- The first lines of every summary. -/
def summaryHead : String := "\n\nAuthentication verification:\n"

/-- The summary for an endpoint that answers with status 401. -/
def unauthorizedText (url : Url) : String :=
  summaryHead ++ "\tResult:   failed\n\tReason:   received status code: " ++ Status.text Status.unauthorized
    ++ "\n\tEndpoint: " ++ url.text ++ "\n\n" ++ rule ++ "\n"

/-- The summary for a request without a response. -/
def unsentText (error : SendError) : String :=
  summaryHead ++ "\tResult:   failed\n\tError in sending request: " ++ error.chain.headD "" ++ "\n"
    ++ "\tIs the server up and running?\n"

/-- The summary if every endpoint accepts the token. -/
def successText : String :=
  summaryHead ++ "\tResult: success!\n\n\n\nTip: for less verbose output, set the flag \"--log-level=warn\"\n"
    ++ rule ++ "\n"

/-- Writes a string at log level info or more verbose. -/
def sayInfo (verbosity : Verbosity) (text : String) : Plan Unit :=
  if verbosity.shows .info then .say text else .done ()

/-- Checks a response. Only status 401 refuses the user. -/
def check (verbosity : Verbosity) (url : Url) (reply : Reply) : Plan Unit := do
  if reply.status = Status.unauthorized then
    .say (unauthorizedText url)
    .fail .unauthorized
  else if verbosity.shows .info then
    -- The body is only read where it is shown, and can only fail the verification there.
    let received ← .ofExcept ((← Plan.await reply.received).mapError (.reading url))
    .say ("\tResponse: " ++ toString received.status ++ " " ++ received.text ++ "\n")

/-- Calls an endpoint and checks the response. -/
def visit (config : Configuration) (client : Client) (path : String) : Plan Unit := do
  match endpointUrl config.target path with
  | .error cause => .fail (.endpoint cause)
  | .ok url =>
    sayInfo config.logLevel ("Path: " ++ path ++ "\n")
    match ← Plan.ask client ⟨url, none⟩ with
    | .ok reply => check config.logLevel url reply
    | .error cause =>
      .say (unsentText cause)
      .fail (.unsent cause)

/-- Calls the endpoints in order. The first failure ends the verification. -/
def visitAll (config : Configuration) (client : Client) : List String → Plan Unit
  | [] => return ()
  | path :: rest => do
    visit config client path
    visitAll config client rest

/-- Verifies the credentials on every private endpoint. -/
def verify (library : Library) (files : Files) (config : Configuration) : Plan Unit := do
  -- The banner is written before the client is known to exist.
  .say banner
  match ← prepareClient library files config (.ofMode .token config) with
  | .error cause => .fail (.initialization cause)
  | .ok client =>
    .say (authenticatorText config.logLevel config.credentials.token)
    visitAll config client privatePaths
    .say successText

end AccessProbe.Verification
