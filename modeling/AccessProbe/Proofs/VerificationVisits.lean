import AccessProbe.Proofs.Outcome
import AccessProbe.Verification

/-! Visits to paths, up to the first one at which the verification stops, and how each kind of stop is reported. -/

namespace AccessProbe.Verification

variable {verbosity : Verbosity} {wire : Wire} {log : List LogRecord} {written : List UInt8}

/-- The reasons for which the verification stops at a path. -/
inductive Stop where
  /-- The request got no response. -/
  | unsent (cause : SendError)
  /-- The response has status 401. -/
  | refused (url : Url)
  /-- The body of the response is read, and cannot be. -/
  | unread (url : Url) (cause : BodyError)
  /-- The response never comes, or its body is read and never ends. -/
  | waiting
  deriving DecidableEq

namespace Stop

/-- The error that the verification returns. -/
def cause : Stop → Unfinished
  | .unsent cause => .failed (.unsent cause)
  | .refused _ => .failed .unauthorized
  | .unread url cause => .failed (.reading url cause)
  | .waiting => .waiting

end Stop

/-- The outcome of a visit to a URL: the stop there, or nothing if the verification goes on. -/
inductive Visited (level : Verbosity) (client : Client) (wire : Wire) (url : Url) : Option Stop → Prop where
  /-- The status is not 401, and the body can be read if it is shown. -/
  | passed {place : Url} {response : Response}
    (brings : wire.Brings client ⟨url, none⟩ (some (.ok (place, response)))) (accepted : response.status ≠ 401)
    (readable : level.shows .info = true → ∃ bytes, response.body = some (.ok bytes)) :
    Visited level client wire url none
  /-- The status is 401, whatever the body is. -/
  | refused {place : Url} {response : Response}
    (brings : wire.Brings client ⟨url, none⟩ (some (.ok (place, response)))) (status : response.status = 401) :
    Visited level client wire url (some (.refused url))
  /-- The status is not 401, and the body is shown but cannot be read. -/
  | unread {place : Url} {response : Response} {fault : BodyFault}
    (brings : wire.Brings client ⟨url, none⟩ (some (.ok (place, response)))) (accepted : response.status ≠ 401)
    (wanted : level.shows .info = true) (broken : response.body = some (.error fault)) :
    Visited level client wire url (some (.unread url ⟨place, fault⟩))
  /-- There is no response. -/
  | unsent {fault : SendFault} (brings : wire.Brings client ⟨url, none⟩ (some (.error fault))) :
    Visited level client wire url (some (.unsent ⟨url, fault⟩))
  /-- The response never comes, and the client has no time limit. -/
  | unanswered (brings : wire.Brings client ⟨url, none⟩ none) (unlimited : client.timeLimit = none) :
    Visited level client wire url (some .waiting)
  /-- The body is shown and never ends, and the client has no time limit. -/
  | endless {place : Url} {response : Response}
    (brings : wire.Brings client ⟨url, none⟩ (some (.ok (place, response)))) (accepted : response.status ≠ 401)
    (wanted : level.shows .info = true) (body : response.body = none) (unlimited : client.timeLimit = none) :
    Visited level client wire url (some .waiting)

/-- Only a client without a time limit waits for ever. -/
theorem Visited.timeLimit_eq_none {level : Verbosity} {client : Client} {url : Url}
    (visited : Visited level client wire url (some .waiting)) : client.timeLimit = none := by
  -- It waits for the response or for its body.
  cases visited with
  | unanswered _ unlimited => exact unlimited
  | endless _ _ _ _ unlimited => exact unlimited

/-- How the verification goes on from the reply to a request. -/
def settle (verbosity : Verbosity) (url : Url) : Option (Except SendError Reply) → Plan Unit
  | none => .stop .waiting
  | some (.ok reply) => check verbosity url reply
  | some (.error cause) => do
    .say (unsentText cause)
    .fail (.unsent cause)

/-- The line about a response that is passed. -/
def remark (level : Verbosity) : Option (Except SendError Reply) → String
  | some (.ok ⟨status, _, some (.ok text)⟩) =>
    if level.shows .info then "\tResponse: " ++ toString status ++ " " ++ text ++ "\n" else ""
  | _ => ""

section Settle

variable {level : Verbosity} {client : Client} {url : Url} {stop : Stop} {before : Wire}

/-- To settle a reply sends nothing. -/
theorem settle_sends (level : Verbosity) (url : Url) (sent : Option (Except SendError Reply)) :
    (settle level url sent).Sends [] := by
  -- Reply by reply. There are only texts and errors behind each.
  match sent with
  | none => exact .stop _ _
  | some (.error cause) => exact .write _ (.stop _ _)
  | some (.ok reply) =>
    simp only [settle, check]
    split
    · exact .write _ (.stop _ _)
    · split
      · exact (Plan.Sends.await _).bind_nil fun _ => (Plan.Sends.ofExcept _).bind_nil fun _ => .write _ (.done ())
      · exact .done ()

end Settle

/-- The line of a path, at levels that show info. -/
def pathLine (level : Verbosity) (path : String) : String :=
  if level.shows .info then "Path: " ++ path ++ "\n" else ""

/-- The path line sends nothing. -/
theorem sayInfo_sends (level : Verbosity) (text : String) : (sayInfo level text).Sends [] := by
  unfold sayInfo
  split
  · exact .write _ (.done ())
  · exact .done ()

section Visit

variable {config : Configuration} {client : Client} {path : String} {url : Url} {stop : Stop}

/-- A visit to a path without a URL fails before it writes anything. -/
theorem visit_eq_fail {cause : EndpointError} (missing : endpointUrl config.target path = .error cause) :
    visit config client path = .fail (.endpoint cause) := by
  simp only [visit, missing]

/-- A visit writes the path line, sends its request and settles the reply. -/
theorem visit_eq (found : endpointUrl config.target path = .ok url) :
    visit config client path = sayInfo config.logLevel ("Path: " ++ path ++ "\n") >>= fun _ =>
      .send client ⟨url, none⟩ (settle config.logLevel url) := by
  simp only [visit, found]
  -- The two sides differ in the continuation only, and agree on each kind of reply.
  congr 1
  funext _
  simp only [Plan.ask, Bind.bind, Plan.bind]
  congr 1
  funext sent
  rcases sent with _ | cause | reply <;> rfl

/-- A visit sends its request, and no other. -/
theorem visit_sends (found : endpointUrl config.target path = .ok url) :
    (visit config client path).Sends [(client, ⟨url, none⟩)] := by
  -- The path line and the settling send nothing.
  rw [visit_eq found]
  exact (sayInfo_sends _ _).bind fun _ => .send _ _ fun sent => settle_sends _ _ sent

/-- Visits send one request per place, in order. -/
theorem visitAll_sends {places : List (String × Url)}
    (found : ∀ place ∈ places, endpointUrl config.target place.1 = .ok place.2) :
    (visitAll config client (places.map Prod.fst)).Sends (client.looks places) := by
  induction places with
  | nil => exact .done ()
  | cons place rest ih =>
    have others := ih fun place member => found place (by simp [member])
    exact (visit_sends (found place (by simp))).bind fun _ => others

/-- The lines about places that are passed. -/
def remarks (level : Verbosity) (client : Client) (wire : Wire) (places : List (String × Url)) : String :=
  String.join (List.zipWith (fun place sent => pathLine level place.1 ++ remark level sent) places
    (wire.sendAll (client.looks places)).1)

end Visit

end AccessProbe.Verification
