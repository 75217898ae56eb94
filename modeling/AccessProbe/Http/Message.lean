import AccessProbe.Http.Headers
import AccessProbe.Url.Basic

/-! Requests, answers and responses, and the network that carries them. -/

namespace AccessProbe

/-- The methods of requests. -/
inductive Method where
  | get
  | post
  deriving DecidableEq, Repr

def Method.text : Method → String
  | .get => "GET"
  | .post => "POST"

/-- A request as the server sees it. -/
structure Request where
  method : Method
  /-- The URL, without user, password and fragment. -/
  url : Url
  headers : Headers
  body : List UInt8
  deriving DecidableEq, Repr

/-- How an answer of a server may go wrong. -/
inductive Fault where
  /-- The connection is closed without an answer. -/
  | close
  /-- The answer is no HTTP. -/
  | garbage
  /-- The connection is closed before the end of the body. -/
  | truncate
  /-- No answer ever comes. -/
  | hang
  /-- The body never ends. -/
  | hangBody
  deriving DecidableEq, Repr

/-- The answer of a server to a request. -/
structure Answer where
  status : Nat
  /-- The header fields, with names in any case, possibly repeated. -/
  headers : List (String × String)
  body : List UInt8
  /-- What goes wrong with it, if anything. -/
  fault : Option Fault
  deriving DecidableEq, Repr

/-- Why a body cannot be read. -/
inductive BodyFault where
  /-- It ends too early. -/
  | truncated
  /-- The time limit is reached. -/
  | timedOut
  deriving DecidableEq, Repr

/-- A response whose head has been read. -/
structure Response where
  status : Nat
  headers : List (String × String)
  /-- The body. Reading it may fail, or take for ever. -/
  body : Option (Except BodyFault (List UInt8))

/-- The values of a header field, in order. -/
def Response.values (response : Response) (name : String) : List String :=
  (response.headers.filter fun field => field.1.toList.map Char.toLower == name.toList).map (·.2)

/-- Why an exchange yields no response. -/
inductive ExchangeError where
  /-- The server or the proxy in front of it cannot be reached. -/
  | unreachable (tunnel : Bool)
  /-- The tunnel for https is refused. -/
  | tunnelRefused
  /-- The connection is closed without an answer. -/
  | closed
  /-- The answer is no HTTP. -/
  | notHttp
  /-- The status code is no number of three digits. -/
  | badStatus
  /-- The time limit is reached. -/
  | timedOut
  deriving DecidableEq, Repr

/-- The error chain, outermost message first. -/
def ExchangeError.chain : ExchangeError → List String
  | .unreachable tunnel =>
    "client error (Connect)" ::
      (if tunnel then ["tunnel error: failed to create underlying connection"] else [])
      ++ ["tcp connect error", "Network is unreachable (os error 101)"]
  | .tunnelRefused => ["client error (Connect)", "tunnel error: unsuccessful"]
  | .closed => ["client error (SendRequest)", "connection closed before message completed"]
  | .notHttp => ["client error (SendRequest)", "invalid HTTP version parsed"]
  | .badStatus => ["client error (SendRequest)", "invalid HTTP status-code parsed"]
  | .timedOut => ["operation timed out"]

/-- The network between the program and its servers. Answers come at once, so that only those that hang reach a
time limit. -/
inductive Network where
  /-- No server can be reached. -/
  | unreachable
  /-- One server takes all requests and gives these answers in turn, and then closes its connections. Requests
  over https need a tunnel to it, which is there or refused. -/
  | scripted (tunnels : Bool) (answers : List Answer)
  deriving DecidableEq, Repr

/-- The answer behind the end of a script. -/
def Answer.none : Answer := ⟨200, [], [], some .close⟩

/-- Whether an answer has a status line. -/
def Answer.hasHead (answer : Answer) : Bool :=
  match answer.fault with
  | some .close | some .garbage | some .hang => false
  | some .truncate | some .hangBody | .none => true

/-- Whether an answer is an interim one, behind which another has to come. -/
def Answer.isInterim (answer : Answer) : Bool :=
  -- Status 101 ends HTTP on the connection, so that nothing follows it.
  answer.hasHead && 100 ≤ answer.status && answer.status < 200 && answer.status ≠ 101

/-- What comes of an exchange with a server. -/
structure Exchange where
  /-- The answer, if the server is reached. -/
  answer : Except ExchangeError Answer
  /-- The network after the exchange. -/
  network : Network
  /-- Whether the server saw the request. -/
  seen : Bool

/-- Carries a request to its server. -/
def Network.exchange (network : Network) (request : Request) : Exchange :=
  let secure := request.url.scheme = "https"
  match network with
  | .unreachable => ⟨.error (.unreachable secure), .unreachable, false⟩
  | .scripted tunnels answers =>
    -- A refused tunnel takes no answer from the script.
    if secure ∧ tunnels = false then ⟨.error .tunnelRefused, .scripted tunnels answers, false⟩
    else ⟨.ok (answers.headD .none), .scripted tunnels answers.tail, true⟩

end AccessProbe
