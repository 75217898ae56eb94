import AccessProbe.Duration
import AccessProbe.Http.Hop
import AccessProbe.Http.Library

/-! The HTTP client: it sends requests, follows redirects and reads responses. -/

namespace AccessProbe

/-- An HTTP client with its default headers. -/
structure Client where
  /-- The header fields of every request. -/
  defaults : Headers
  /-- The limit for a request and its response, redirects included, if there is one. -/
  timeLimit : Option Duration
  /-- What the client leaves to its library. -/
  library : Library

/-- A request as the program makes it. -/
structure Call where
  url : Url
  /-- The JSON body, if there is one. -/
  content : Option (List UInt8)
  deriving DecidableEq, Repr

/-- A request with a body is a POST request. -/
def Call.method (call : Call) : Method := if call.content.isSome then .post else .get

/-- The connection to the servers, with everything that requests leave behind. -/
structure Wire where
  network : Network
  /-- The cookies that have been set. -/
  jar : Jar
  /-- The requests that servers have seen, in order. -/
  seen : List Request

/-- Why a request gets no response. -/
inductive SendFault where
  /-- One of its exchanges failed. -/
  | exchange (cause : ExchangeError)
  /-- There were too many redirects. -/
  | tooManyRedirects
  /-- A redirect leads to a scheme other than http and https. -/
  | foreignScheme
  deriving DecidableEq, Repr

/-- The error of a request without a response. -/
structure SendError where
  /-- The URL of the first request, whatever redirects followed. -/
  url : Url
  fault : SendFault
  deriving DecidableEq, Repr

/-- The error chain, outermost message first. -/
def SendError.chain (error : SendError) : List String :=
  -- User and password of the URL are not shown.
  let address := " for url (" ++ error.url.withoutUser.text ++ ")"
  match error.fault with
  | .exchange cause => ("error sending request" ++ address) :: cause.chain
  | .tooManyRedirects => ["error following redirect" ++ address, "too many redirects"]
  | .foreignScheme => ["builder error" ++ address, "URL scheme is not allowed"]

/-- The error of a response whose body cannot be read. -/
structure BodyError where
  /-- The URL of the last request. -/
  url : Url
  fault : BodyFault
  deriving DecidableEq, Repr

/-- The error chain, outermost message first. -/
def BodyError.chain (error : BodyError) : List String :=
  match error.fault with
  | .truncated =>
    ["error decoding response body for url (" ++ error.url.withoutUser.text ++ ")",
      "error reading a body from connection", "end of file before message length reached"]
  | .timedOut => ["error decoding response body", "operation timed out"]

/-- What the program reads of a response. -/
structure Reply where
  status : Nat
  /-- The name-value pairs of the `set-cookie` fields. -/
  cookies : List String
  /-- The decoded body. Reading it may fail, or take for ever. -/
  text : Option (Except BodyError String)

namespace Client

/-- What comes of waiting for ever: an error when the time is up, or nothing without a time limit. -/
def expiry {ε α : Type} (client : Client) (error : ε) : Option (Except ε α) :=
  client.timeLimit.map fun _ => .error error

/-- The body of an answer as the client reads it. -/
def content (client : Client) (answer : Answer) : Option (Except BodyFault (List UInt8)) :=
  -- Responses with these statuses have no body, so that no fault can break it.
  if [101, 204, 304].contains answer.status then some (.ok [])
  else match answer.fault with
    | some .truncate => some (.error .truncated)
    | some .hangBody => client.expiry .timedOut
    | _ => some (.ok answer.body)

/-- The answer behind the interim ones. -/
def lastAnswer (client : Client) (answer : Answer) : Answer :=
  if answer.isInterim then client.library.final answer else answer

/-- What a client makes of an answer that is no interim one: a response, an error, or nothing if it waits. -/
def receiveLast (client : Client) (answer : Answer) : Option (Except ExchangeError Response) :=
  match answer.fault with
  | some .close => some (.error .closed)
  | some .garbage => some (.error .notHttp)
  | some .hang => client.expiry .timedOut
  | some .truncate | some .hangBody | none =>
    -- A status code is any number of three digits.
    if 100 ≤ answer.status && answer.status < 1000 then
      some (.ok ⟨answer.status, answer.headers, client.content answer⟩)
    else some (.error .badStatus)

/-- What a client makes of an answer. -/
def receive (client : Client) (answer : Answer) : Option (Except ExchangeError Response) :=
  client.receiveLast (client.lastAnswer answer)

/-- What the program reads of a response from a URL. -/
def reply (client : Client) (url : Url) (response : Response) : Reply where
  status := response.status
  cookies := (response.values "set-cookie").filterMap fun field => (Cookie.parse? field).map Cookie.text
  text :=
    -- The first `content-type` decides on the character set.
    let charset := (response.values "content-type").head?.bind Charset.ofContentType
    response.body.map fun
      | .ok bytes => .ok (String.ofList (Charset.decode client.library.multibyte charset bytes))
      | .error fault => .error ⟨url, fault⟩

/-- The bytes of a percent-encoded part of a URL. -/
def unescaped (piece : String) : List UInt8 := Percent.decode (Utf8.encode piece.toList)

/-- The reply to a request, or its error with the URL of the first request. -/
def conclude (client : Client) (call : Call) : Except SendFault (Url × Response) → Except SendError Reply
  | .ok (url, response) => .ok (client.reply url response)
  | .error fault => .error ⟨call.url, fault⟩

/-- The `authorization` field for the user and the password of a URL. -/
def basicField? (url : Url) : Option String :=
  if url.username = "" && url.password.isNone then none
  else
    let pair := unescaped url.username ++ 0x3A :: unescaped (url.password.getD "")
    some (String.ofList ("Basic ".toList ++ Base64.encode pair))

/-- The header fields that describe a JSON body. -/
def contentFields : Option (List UInt8) → Headers
  | some body => [("content-length", toString body.length), ("content-type", "application/json")]
  | none => []

/-- The header fields of the first request. Those of the request itself replace the default ones. -/
def fields (client : Client) (call : Call) : Headers :=
  let own := contentFields call.content
    ++ ((basicField? call.url).map fun value => ("authorization", value)).toList
  (Headers.extend [("accept", "*/*")] client.defaults).extend own

/-- The first request of a chain of redirects. -/
def first (client : Client) (call : Call) : Hop :=
  ⟨call.method, call.url, client.fields call, call.content.getD [], none⟩

end Client

/-- Carries one request to its server and stores the cookies of the response. -/
def Wire.carry (wire : Wire) (client : Client) (hop : Hop) :
    Option (Except ExchangeError Response) × Wire :=
  let request := hop.request wire.jar
  let exchange := wire.network.exchange request
  -- The time limit of the client decides whether it waits for ever.
  let response := match exchange.answer with
    | .ok answer => client.receive answer
    | .error cause => some (.error cause)
  let jar := match response with
    | some (.ok response) => wire.jar.insertAll hop.url (response.values "set-cookie")
    | _ => wire.jar
  (response, ⟨exchange.network, jar, wire.seen ++ (if exchange.seen then [request] else [])⟩)

/-- How one request of a chain ends. -/
inductive Leg where
  /-- It is the last one, with its response, its error, or nothing if it waits for ever. -/
  | settled (outcome : Option (Except SendFault (Url × Response)))
  /-- A redirect leads to the next one. -/
  | redirected (next : Hop)

/-- Carries a request to its server and looks for a redirect. -/
def Wire.leg (wire : Wire) (client : Client) (hop : Hop) : Leg × Wire :=
  let (response, wire) := wire.carry client hop
  match response with
  | none => (.settled none, wire)
  | some (.error cause) => (.settled (some (.error (.exchange cause))), wire)
  | some (.ok response) =>
    match Hop.location? hop.url response with
    | some url => (.redirected (hop.redirected response.status url), wire)
    | none => (.settled (some (.ok (hop.url, response))), wire)

/-- The number of redirects that are followed. -/
def redirectLimit : Nat := 10

/-- Follows redirects as long as the limit allows. -/
def Wire.follow (wire : Wire) (client : Client) (hop : Hop) :
    Nat → Option (Except SendFault (Url × Response)) × Wire
  | 0 =>
    match wire.leg client hop with
    | (.settled outcome, wire) => (outcome, wire)
    | (.redirected _, wire) => (some (.error .tooManyRedirects), wire)
  | left + 1 =>
    match wire.leg client hop with
    | (.settled outcome, wire) => (outcome, wire)
    | (.redirected next, wire) =>
      -- A redirect to another scheme than http and https is an error.
      if next.url.isWeb then wire.follow client next left else (some (.error .foreignScheme), wire)

/-- Sends a request, follows its redirects and reads the reply. -/
def Wire.send (wire : Wire) (client : Client) (call : Call) : Option (Except SendError Reply) × Wire :=
  let (outcome, wire) := wire.follow client (client.first call) redirectLimit
  (outcome.map (client.conclude call), wire)

end AccessProbe
