import AccessProbe.Probe
import AccessProbe.Proofs.Endpoint
import AccessProbe.Proofs.Plan

/-! One request of the program step by step: its log record, the request and the outcome. -/

namespace AccessProbe

@[simp] theorem Utf8.encode_nil : Utf8.encode [] = [] := rfl

theorem Utf8.encode_append (first second : List Char) :
    Utf8.encode (first ++ second) = Utf8.encode first ++ Utf8.encode second :=
  List.flatMap_append

/-- The JSON of credentials is not empty. -/
theorem Credentials.encode_json_ne_nil (credentials : Credentials) : Utf8.encode credentials.json ≠ [] := by
  -- It starts with a brace, whatever the credentials are.
  have opened : ∃ rest, credentials.json = '\x7b' :: rest := by
    unfold json
    rw [show "\x7b\"login\":".toList = '\x7b' :: "\"login\":".toList by decide]
    exact ⟨_, rfl⟩
  obtain ⟨rest, parts⟩ := opened
  rw [parts, Utf8.encode, List.flatMap_cons]
  exact List.append_ne_nil_of_left_ne_nil (by decide) _

/-- The outcome of a request for the program, given the outcome of sending it; `none` if either waits for
ever. -/
def Errand.outcome (errand : Errand) (url : Url) :
    Option (Except SendError Reply) → Option (Except ProbeError Received)
  | none => none
  | some (.error cause) => some (.error (.sending errand url cause))
  | some (.ok reply) => reply.received.map fun received => received.mapError (.reading url)

/-- The GET requests for some paths with their URLs. -/
def Client.looks (client : Client) (places : List (String × Url)) : List (Client × Call) :=
  places.map fun place => (client, ⟨place.2, none⟩)

namespace Verbosity

/-- The records that are shown at this verbosity. -/
def kept (verbosity : Verbosity) (records : List LogRecord) : List LogRecord :=
  records.filter fun record => verbosity.shows record.severity

/-- Filtering distributes over appending. -/
@[simp] theorem kept_append (verbosity : Verbosity) (first second : List LogRecord) :
    verbosity.kept (first ++ second) = verbosity.kept first ++ verbosity.kept second :=
  List.filter_append first second

end Verbosity

namespace Plan

/-- How a plan ends that returns this outcome. -/
def resolved {α : Type} : Option (Except ProbeError α) → Except Unfinished α
  | none => .error .waiting
  | some (.error error) => .error (.failed error)
  | some (.ok value) => .ok value

variable {verbosity : Verbosity} {wire : Wire} {log : List LogRecord} {written : List UInt8}

/-- A record is added to the log if it is shown at this verbosity. -/
theorem note_eq (record : LogRecord) (report : Report) :
    Work.note verbosity ⟨wire, log, report⟩ record = ⟨wire, log ++ verbosity.kept [record], report⟩ := by
  -- The test of `Work.note` is the filter for a single record.
  unfold Work.note Verbosity.kept
  split
  · rename_i wanted
    simp [wanted]
  · rename_i unwanted
    simp [unwanted]

@[simp] theorem run_write {α : Type} (text : String) (next : Plan α) :
    (Plan.write text next).run verbosity ⟨wire, log, ⟨written, none⟩⟩ =
      next.run verbosity ⟨wire, log, ⟨written ++ Utf8.encode text.toList, none⟩⟩ := rfl

end Plan

namespace Probe

variable {verbosity : Verbosity} {wire : Wire} {log : List LogRecord} {written : List UInt8}

/-- An attempt on an endpoint with a valid URL logs the request, sends it and returns its outcome. -/
theorem attempt_eq {probe : Probe} {errand : Errand} {url : Url}
    (found : endpointUrl probe.target errand.path = .ok url) :
    probe.attempt errand = .note (errand.record probe.credentials url)
      (.send probe.client (errand.call probe.credentials url) fun reply =>
        .await (errand.outcome url reply)) := by
  -- Both sides log and send the same; what they do with the reply is compared for each kind of reply.
  simp only [attempt, found, Plan.tell, Plan.ask, Bind.bind, Plan.bind]
  congr 2
  funext reply
  rcases reply with _ | cause | reply
  · rfl
  · rfl
  · -- The body of a response may be awaited for ever as well.
    simp only [Plan.await, Plan.bind, Errand.outcome]
    cases reply.received with
    | none => rfl
    | some received => rfl

/-- Such an attempt sends this one request. -/
theorem attempt_sends {probe : Probe} {errand : Errand} {url : Url}
    (found : endpointUrl probe.target errand.path = .ok url) :
    (probe.attempt errand).Sends [(probe.client, errand.call probe.credentials url)] := by
  rw [attempt_eq found]
  exact .note _ (.send _ _ fun _ => .await _)

/-- So does a request whose error ends the plan. -/
theorem fetch_sends {probe : Probe} {errand : Errand} {url : Url}
    (found : endpointUrl probe.target errand.path = .ok url) :
    (probe.fetch errand).Sends [(probe.client, errand.call probe.credentials url)] :=
  (attempt_sends found).bind_nil fun _ => .ofExcept _

/-- The log record of a failed request. -/
def failureRecord (error : ProbeError) : LogRecord := ⟨.error, .probe, error.line⟩

/-- The log record of a response. -/
def statusRecord (received : Received) : LogRecord :=
  ⟨.debug, .probe, "Response status: " ++ Status.text received.status⟩

/-- Reporting a response sends nothing. -/
theorem report_sends (received : Received) : (report received).Sends [] :=
  .note _ (.write _ (.done ()))

end Probe

end AccessProbe
