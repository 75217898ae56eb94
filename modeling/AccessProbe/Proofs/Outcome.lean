import AccessProbe.Proofs.Attempt

/-! The outcome of an attempt, explained by the response that its request gets from the servers. -/

namespace AccessProbe

/-- What the program has read of a response: status, cookies and text. -/
structure Received.Of (received : Received) (client : Client) (response : Response) : Prop where
  /-- The status code is that of the response, after all redirects. -/
  status : received.status = response.status
  /-- The cookies are those of its `set-cookie` fields that parse, in their order. -/
  cookies : received.cookies = (response.values "set-cookie").filterMap fun field =>
    (Cookie.parse? field).map fun cookie => cookie.name ++ "=" ++ cookie.value
  /-- The body was read to its end and decoded by the charset of its `content-type`. -/
  text : ∃ bytes, response.body = some (.ok bytes) ∧
    received.text = String.ofList (Charset.decode client.library.multibyte
      ((response.values "content-type").head?.bind Charset.ofContentType) bytes)

/-- The outcome of an attempt, or that it waits for ever. -/
inductive Wire.Attempted (wire : Wire) (client : Client) (errand : Errand) (call : Call) :
    Option (Except ProbeError Received) → Prop where
  /-- There is a response, and its body can be read. -/
  | received {url : Url} {response : Response} {received : Received}
    (brings : wire.Brings client call (some (.ok (url, response)))) (read : received.Of client response) :
    Attempted wire client errand call (some (.ok received))
  /-- There is a response, but its body can't be read. -/
  | unread {url : Url} {response : Response} {fault : BodyFault}
    (brings : wire.Brings client call (some (.ok (url, response)))) (broken : response.body = some (.error fault)) :
    Attempted wire client errand call (some (.error (.reading call.url ⟨url, fault⟩)))
  /-- There is no response. -/
  | unsent {fault : SendFault} (brings : wire.Brings client call (some (.error fault))) :
    Attempted wire client errand call (some (.error (.sending errand call.url ⟨call.url, fault⟩)))
  /-- The response never arrives, and the client has no time limit. -/
  | unanswered (brings : wire.Brings client call none) (unlimited : client.timeLimit = none) :
    Attempted wire client errand call none
  /-- The body never ends, and the client has no time limit. -/
  | endless {url : Url} {response : Response} (brings : wire.Brings client call (some (.ok (url, response))))
    (body : response.body = none) (unlimited : client.timeLimit = none) : Attempted wire client errand call none

namespace Client

variable {client : Client}

/-- Only a client without a time limit waits for ever for what never arrives. -/
theorem timeLimit_eq_none_of_expiry {ε α : Type} {error : ε}
    (waits : client.expiry error = (none : Option (Except ε α))) : client.timeLimit = none :=
  -- With a limit there would be an error.
  Option.map_eq_none_iff.mp waits

/-- Only a client without a time limit waits for ever for a body. -/
theorem timeLimit_eq_none_of_content {answer : Answer} (waits : client.content answer = none) :
    client.timeLimit = none := by
  -- Of all faults only a body that hangs is awaited.
  unfold content at waits
  split at waits
  · cases waits
  · split at waits
    · cases waits
    · exact timeLimit_eq_none_of_expiry waits
    · cases waits

/-- Only a client without a time limit waits for ever for the head of a response. -/
theorem timeLimit_eq_none_of_receive {answer : Answer} (waits : client.receive answer = none) :
    client.timeLimit = none := by
  -- Of all faults only an answer that hangs is awaited.
  unfold receive receiveLast at waits
  split at waits
  · cases waits
  · cases waits
  · exact timeLimit_eq_none_of_expiry waits
  all_goals
    split at waits
    · cases waits
    · cases waits

/-- The body of a response is what the client reads of the final answer. -/
theorem body_of_receive {answer : Answer} {response : Response}
    (received : client.receive answer = some (.ok response)) :
    ∃ final, response.body = client.content final := by
  -- Among the cases of `receiveLast` only those with a response are left.
  refine ⟨client.lastAnswer answer, ?_⟩
  unfold receive receiveLast at received
  split at received
  · cases received
  · cases received
  · -- A time limit gives an error, and without one nothing is received.
    unfold expiry at received
    cases limit : client.timeLimit with
    | none => simp [limit] at received
    | some time => simp [limit] at received
  all_goals
    split at received
    · rw [← Except.ok.inj (Option.some.inj received)]
    · cases received

end Client

namespace Wire.Delivers

variable {wire later : Wire} {client : Client} {call : Call}

/-- Only a client without a time limit waits for ever for a response. -/
theorem timeLimit_eq_none (delivered : wire.Delivers client call none later) : client.timeLimit = none := by
  -- The last request received is the one whose answer never arrives.
  cases delivered with
  | seen _ _ _ _ ends =>
    obtain ⟨last, _, ends⟩ := ends
    cases ends with
    | waiting received => exact Client.timeLimit_eq_none_of_receive received

/-- Only a client without a time limit waits for ever for the body of a response. -/
theorem timeLimit_eq_none_of_body {url : Url} {response : Response}
    (delivered : wire.Delivers client call (some (.ok (url, response))) later) (body : response.body = none) :
    client.timeLimit = none := by
  -- The body is that of the answer to the last request received.
  cases delivered with
  | seen _ _ _ _ ends =>
    obtain ⟨last, _, ends⟩ := ends
    cases ends with
    | answered received final =>
      obtain ⟨answer, read⟩ := Client.body_of_receive received
      exact Client.timeLimit_eq_none_of_content (read.symm.trans body)

end Wire.Delivers

/-- The outcome of an attempt is one of these five. -/
theorem Wire.attempted (wire : Wire) (client : Client) (errand : Errand) (call : Call) :
    wire.Attempted client errand call (errand.outcome call.url (wire.send client call).1) := by
  obtain ⟨outcome, brings⟩ := wire.exists_brings client call
  rw [brings.told]
  -- Cases on the outcome of the request, and with a response on its body.
  match outcome with
  | none => exact .unanswered brings brings.delivered.timeLimit_eq_none
  | some (.error fault) => exact .unsent brings
  | some (.ok (url, ⟨status, headers, body⟩)) =>
    cases body with
    | none => exact .endless brings rfl (brings.delivered.timeLimit_eq_none_of_body rfl)
    | some ended =>
      cases ended with
      | error fault => exact .unread brings rfl
      | ok bytes => exact .received brings ⟨rfl, rfl, bytes, rfl, rfl⟩

/-- The outcome of an attempt is determined by sending its request. -/
theorem Wire.Attempted.outcome_eq {wire : Wire} {client : Client} {errand : Errand} {call : Call}
    {outcome : Option (Except ProbeError Received)} (attempted : wire.Attempted client errand call outcome) :
    outcome = errand.outcome call.url (wire.send client call).1 := by
  -- Each case fixes the reply that the program gets.
  cases attempted with
  | received brings read =>
    obtain ⟨bytes, ended, text⟩ := read.text
    have cookies : (_ : List String).filterMap (fun field => (Cookie.parse? field).map Cookie.text) = _ :=
      read.cookies.symm
    rw [brings.told]
    simp only [Errand.outcome, Client.conclude, Client.reply, Reply.received, ended, Option.map_some,
      Except.mapError, ← text, ← read.status, cookies]
  | unread brings broken =>
    rw [brings.told]
    simp only [Errand.outcome, Client.conclude, Client.reply, Reply.received, broken, Option.map_some,
      Except.mapError]
  | unsent brings => rw [brings.told]; rfl
  | unanswered brings _ => rw [brings.told]; rfl
  | endless brings body _ =>
    rw [brings.told]
    simp only [Errand.outcome, Client.conclude, Client.reply, Reply.received, body, Option.map_some,
      Option.map_none]

/-- Only a client without a time limit waits for ever for the outcome of an attempt. -/
theorem Wire.Attempted.timeLimit_eq_none {wire : Wire} {client : Client} {errand : Errand} {call : Call}
    (attempted : wire.Attempted client errand call none) : client.timeLimit = none := by
  -- It waits for the head of the response or for its body, and both cases say so.
  cases attempted with
  | unanswered _ unlimited => exact unlimited
  | endless _ _ unlimited => exact unlimited

end AccessProbe
