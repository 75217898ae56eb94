import AccessProbe.CommandLine.Task
import AccessProbe.Proofs.VerificationRun

/-! The values that plans return and the errors that they stop with, whatever the servers reply. -/

namespace AccessProbe

/-- What a client may get for a request: with a time limit, neither the response nor its body is awaited for
ever. -/
def Client.MayBring (client : Client) (reply : Option (Except SendError Reply)) : Prop :=
  client.timeLimit ≠ none → ∃ sent, reply = some sent ∧ ∀ response, sent = .ok response → response.text ≠ none

namespace Client.MayBring

variable {client : Client}

/-- Only a client without a time limit waits for ever for a response. -/
theorem timeLimit_eq_none (brought : client.MayBring none) : client.timeLimit = none := by
  -- A time limit would give a reply or an error.
  by_contra limited
  obtain ⟨_, missing, _⟩ := brought limited
  cases missing

/-- Only a client without a time limit waits for ever for a body. -/
theorem timeLimit_eq_none_of_text {status : Nat} {cookies : List String}
    (brought : client.MayBring (some (.ok ⟨status, cookies, none⟩))) : client.timeLimit = none := by
  -- A time limit would give the text or an error.
  by_contra limited
  obtain ⟨_, same, read⟩ := brought limited
  exact read _ (Option.some.inj same).symm rfl

end Client.MayBring

/-- Every outcome of sending a request is one that the client may get. -/
theorem Wire.send_mayBring (wire : Wire) (client : Client) (call : Call) :
    client.MayBring (wire.send client call).1 := by
  -- Cases on the outcome, which is explained by the last request that a server received.
  intro limited
  obtain ⟨outcome, brings⟩ := wire.exists_brings client call
  rw [brings.told]
  match outcome with
  | none => exact absurd brings.delivered.timeLimit_eq_none limited
  | some (.error fault) => exact ⟨_, rfl, nofun⟩
  | some (.ok (url, response)) =>
    refine ⟨_, rfl, fun reply same endless => ?_⟩
    obtain rfl : client.reply url response = reply := Except.ok.inj same
    -- The text is awaited for ever only if the body is.
    have body : response.body = none := Option.map_eq_none_iff.mp endless
    exact limited (brings.delivered.timeLimit_eq_none_of_body body)

/-- The plan stops with one of these errors, or waits for ever without a time limit. -/
def Unfinished.IsOf (errors : ProbeError → Prop) (limit : Option Duration) : Unfinished → Prop
  | .failed error => errors error
  | .waiting => limit = none

namespace Plan

variable {α β : Type} {values : α → Prop} {results : β → Prop} {causes : Unfinished → Prop}

/-- A plan returns such values and stops for such causes only, whatever servers reply. -/
inductive Ends (values : α → Prop) (causes : Unfinished → Prop) : Plan α → Prop where
  /-- It returns such a value. -/
  | done {value : α} (kind : values value) : Ends values causes (.done value)
  /-- It stops for such a cause. -/
  | stop {cause : Unfinished} (kind : causes cause) : Ends values causes (.stop cause)
  /-- It writes to the report first. -/
  | write (text : String) {next : Plan α} (after : Ends values causes next) :
    Ends values causes (.write text next)
  /-- It writes to the log first. -/
  | note (record : LogRecord) {next : Plan α} (after : Ends values causes next) :
    Ends values causes (.note record next)
  /-- It sends a request first, and goes on with any reply that the client may get. -/
  | send (client : Client) (call : Call) {next : Option (Except SendError Reply) → Plan α}
    (after : ∀ reply, client.MayBring reply → Ends values causes (next reply)) :
    Ends values causes (.send client call next)

namespace Ends

/-- A sequence of two plans returns the values of the second one and stops for the causes of either. -/
theorem bind {plan : Plan α} {rest : α → Plan β} (before : plan.Ends values causes)
    (after : ∀ value, values value → (rest value).Ends results causes) :
    (plan >>= rest).Ends results causes := by
  show (plan.bind rest).Ends results causes
  -- Induction on the first plan, which continues with the second one where it returns a value.
  induction before with
  | done kind => exact after _ kind
  | stop kind => exact .stop kind
  | write text _ ih => exact .write text ih
  | note record _ ih => exact .note record ih
  | send client call _ ih => exact .send client call ih

/-- The causes may be widened. -/
theorem imp {others : Unfinished → Prop} {plan : Plan α} (ends : plan.Ends values causes)
    (wider : ∀ cause, causes cause → others cause) : plan.Ends values others := by
  -- Induction on the plan; only where it stops is there something to show.
  induction ends with
  | done kind => exact .done kind
  | stop kind => exact .stop (wider _ kind)
  | write text _ ih => exact .write text ih
  | note record _ ih => exact .note record ih
  | send client call _ ih => exact .send client call ih

/-- A run without report limit ends as its plan may. -/
theorem run {plan : Plan α} (ends : plan.Ends values causes) (verbosity : Verbosity) (wire : Wire)
    (log : List LogRecord) (written : List UInt8) :
    match (plan.run verbosity ⟨wire, log, ⟨written, none⟩⟩).1 with
    | .ok value => values value
    | .error cause => causes cause := by
  -- Writing and logging keep the plan among those that end so; a request leaves it to the reply.
  induction ends generalizing wire log written with
  | done kind => exact kind
  | stop kind => exact kind
  | write text _ ih => exact ih _ _ _
  | note record _ ih =>
    simp only [Plan.run, note_eq]
    exact ih _ _ _
  | send client call _ ih =>
    -- `send_mayBring` makes the reply one that the plan covers.
    exact ih _ (wire.send_mayBring client call) _ _ _

/-- A run without report limit stops for one of the causes of its plan. -/
theorem cause_of_run {plan : Plan α} (ends : plan.Ends values causes) {verbosity : Verbosity} {wire : Wire}
    {log : List LogRecord} {written : List UInt8} {cause : Unfinished}
    (stopped : (plan.run verbosity ⟨wire, log, ⟨written, none⟩⟩).1 = .error cause) : causes cause := by
  -- The result of the run is known to be an error.
  have kind := ends.run verbosity wire log written
  rw [stopped] at kind
  exact kind

/-- With a time limit a run without report limit does not wait for ever. -/
theorem run_ne_waiting {plan : Plan α} {errors : ProbeError → Prop} {limit : Option Duration}
    (ends : plan.Ends values (Unfinished.IsOf errors limit)) (limited : limit ≠ none) (verbosity : Verbosity)
    (wire : Wire) (log : List LogRecord) (written : List UInt8) :
    (plan.run verbosity ⟨wire, log, ⟨written, none⟩⟩).1 ≠ .error .waiting :=
  fun waits => limited (ends.cause_of_run waits)

end Ends

end Plan

namespace Probe

/-- The errors of a request of the program. -/
def mayFail : ProbeError → Bool
  | .endpoint _ | .sending _ _ _ | .reading _ _ => true
  | _ => false

/-- The errors of a task other than the verification. -/
def mayEnd : ProbeError → Bool
  | .client _ | .incomplete _ => true
  | error => mayFail error

/-- An error of a request is one of a task. -/
theorem mayEnd_of_mayFail {error : ProbeError} (kind : mayFail error = true) : mayEnd error = true := by
  cases error with
  | client cause => rfl
  | incomplete failed => rfl
  | _ => exact kind

/-- The causes for which a task with a client of this time limit may stop. -/
abbrev mayStop (limit : Option Duration) : Unfinished → Prop := Unfinished.IsOf (mayEnd · = true) limit

/-- An attempt returns its outcome, whose error is one of a request, and stops only by waiting for ever. -/
theorem attempt_ends (probe : Probe) (errand : Errand) : (probe.attempt errand).Ends
    (fun outcome => ∀ error, outcome = .error error → mayFail error = true) (mayStop probe.client.timeLimit) := by
  -- Without a URL nothing is sent; with one the reply decides.
  cases found : endpointUrl probe.target errand.path with
  | error cause =>
    simp only [attempt, found]
    exact .done fun _ same => by rw [← Except.error.inj same]; rfl
  | ok url =>
    rw [attempt_eq found]
    refine .note _ (.send _ _ fun reply brought => ?_)
    -- The response never arrives or is an error; or its body never arrives, can't be read, or is received.
    rcases reply with _ | cause | ⟨status, cookies, _ | cause | text⟩
    · exact .stop brought.timeLimit_eq_none
    · exact .done fun _ same => by rw [← Except.error.inj same]; rfl
    · exact .stop brought.timeLimit_eq_none_of_text
    · exact .done fun _ same => by rw [← Except.error.inj same]; rfl
    · exact .done fun _ same => by cases same

/-- A request whose error ends the task stops for an error of a request. -/
theorem fetch_ends (probe : Probe) (errand : Errand) :
    (probe.fetch errand).Ends (fun _ => True) (mayStop probe.client.timeLimit) := by
  -- The error that the attempt returns is the one that it stops with.
  refine (attempt_ends probe errand).bind fun outcome kind => ?_
  cases outcome with
  | ok received => exact .done trivial
  | error error => exact .stop (mayEnd_of_mayFail (kind error rfl))

section Reports

variable {causes : Unfinished → Prop}

/-- Reporting a response does not stop the plan. -/
theorem report_ends (received : Received) : (report received).Ends (fun _ => True) causes :=
  .note _ (.write _ (.done trivial))

/-- Nor does reporting it with its cookies. -/
theorem reportWithCookies_ends (received : Received) :
    (reportWithCookies received).Ends (fun _ => True) causes :=
  (report_ends received).bind fun _ _ => .write _ (.done trivial)

/-- Nor does reporting an attempt. -/
theorem reportAttempt_ends (outcome : Except ProbeError Received) :
    (reportAttempt outcome).Ends (fun _ => True) causes :=
  match outcome with
  | .ok received => (report_ends received).bind fun _ _ => .done trivial
  | .error _ => .note _ (.write _ (.done trivial))

end Reports

/-- Counting failed attempts stops only by waiting for ever. -/
theorem countFailures_ends (probe : Probe) (paths : List String) :
    (probe.countFailures paths).Ends (fun _ => True) (mayStop probe.client.timeLimit) := by
  -- Induction on the paths, one attempt and its report at a time.
  induction paths with
  | nil => exact .done trivial
  | cons path rest ih =>
    exact (attempt_ends probe (.look path)).bind fun outcome _ =>
      (reportAttempt_ends outcome).bind fun _ _ => ih.bind fun _ _ => .done trivial

/-- A session stops for an error of one of its requests. -/
theorem session_ends (probe : Probe) : probe.session.Ends (fun _ => True) (mayStop probe.client.timeLimit) :=
  (fetch_ends probe _).bind fun _ _ => (reportWithCookies_ends _).bind fun _ _ =>
    (fetch_ends probe _).bind fun _ _ => reportWithCookies_ends _

/-- A token run stops with the number of failed attempts, if there are any. -/
theorem token_ends (probe : Probe) : probe.token.Ends (fun _ => True) (mayStop probe.client.timeLimit) := by
  -- The attempts themselves stop only by waiting for ever.
  refine (countFailures_ends probe tokenPaths).bind fun failed _ => ?_
  split
  · exact .done trivial
  · exact .stop rfl

/-- A registration stops for an error of its request. -/
theorem register_ends (probe : Probe) : probe.register.Ends (fun _ => True) (mayStop probe.client.timeLimit) :=
  (fetch_ends probe _).bind fun _ _ => report_ends _

/-- Listing secrets stops for an error of its request. -/
theorem list_ends (probe : Probe) (kind : SecretKind) :
    (probe.list kind).Ends (fun _ => True) (mayStop probe.client.timeLimit) := by
  -- The log record is followed by one request and its report.
  rw [list, Plan.tell_bind]
  exact .note _ ((fetch_ends probe _).bind fun _ _ => report_ends _)

end Probe

section Preparation

variable {causes : Unfinished → Prop}

/-- Preparing a client returns its error as a value, and a client has the time limit of the configuration. -/
theorem prepareClient_ends (library : Library) (files : Files) (config : Configuration)
    (authentication : Authentication) : (prepareClient library files config authentication).Ends
      (fun prepared => ∀ client, prepared = .ok client → client.timeLimit = config.timeLimit) causes := by
  -- Both branches return the result of `buildClient`, one of them after a log record.
  have limited : ∀ client, buildClient library files config authentication = .ok client →
      client.timeLimit = config.timeLimit := by
    intro client built
    obtain ⟨_, _, _, rfl⟩ := buildClient_eq_ok_iff.mp built
    rfl
  unfold prepareClient
  split
  · exact .note _ (.done limited)
  · exact .done limited

/-- Preparing a probe stops for an error of its client, and a probe has the time limit of the configuration.
-/
theorem Probe.prepare_ends (library : Library) (files : Files) (config : Configuration) (mode : Mode) :
    (Probe.prepare library files config mode).Ends (fun probe => probe.client.timeLimit = config.timeLimit)
      (Probe.mayStop config.timeLimit) := by
  -- The error that `prepareClient` returns is the one that it stops with.
  refine (prepareClient_ends library files config _).bind fun prepared limited => ?_
  cases prepared with
  | error cause => exact .stop rfl
  | ok client => exact .done (limited client rfl)

end Preparation

namespace Verification

/-- The errors of a verification; that of reading a body needs a log level of info or below. -/
def mayEnd (level : Verbosity) : ProbeError → Bool
  | .initialization _ | .endpoint _ | .unauthorized | .unsent _ => true
  | .reading _ _ => level.shows .info
  | _ => false

/-- The causes for which a verification with this log level and time limit may stop. -/
abbrev mayStop (level : Verbosity) (limit : Option Duration) : Unfinished → Prop :=
  Unfinished.IsOf (mayEnd level · = true) limit

/-- Writing an info line does not stop the plan. -/
theorem sayInfo_ends (level : Verbosity) (text : String) {causes : Unfinished → Prop} :
    (sayInfo level text).Ends (fun _ => True) causes := by
  -- It writes or does nothing, depending on the log level.
  unfold sayInfo
  split
  · exact .write _ (.done trivial)
  · exact .done trivial

/-- Checking a reply stops for a 401, and at info for a body that can't be read. -/
theorem check_ends (level : Verbosity) (client : Client) (url : Url) (reply : Reply)
    (brought : client.MayBring (some (.ok reply))) :
    (check level url reply).Ends (fun _ => True) (mayStop level client.timeLimit) := by
  -- Cases in the order of `check`: the status, then the log level, then the text.
  unfold check
  split
  · exact .write _ (.stop rfl)
  · split
    · rename_i wanted
      match reply, brought with
      | ⟨status, cookies, none⟩, brought => exact .stop brought.timeLimit_eq_none_of_text
      | ⟨status, cookies, some (.error cause)⟩, _ => exact .stop wanted
      | ⟨status, cookies, some (.ok text)⟩, _ => exact .write _ (.done trivial)
    · exact .done trivial

/-- A visit stops for a URL that can't be built, a request that fails, or as its check does. -/
theorem visit_ends (config : Configuration) (client : Client) (path : String) :
    (visit config client path).Ends (fun _ => True) (mayStop config.logLevel client.timeLimit) := by
  -- Without a URL nothing is sent; with one the reply decides.
  cases found : endpointUrl config.target path with
  | error cause =>
    rw [visit_eq_fail found]
    exact .stop rfl
  | ok url =>
    rw [visit_eq found]
    refine (sayInfo_ends _ _).bind fun _ _ => .send _ _ fun sent brought => ?_
    match sent, brought with
    | none, brought => exact .stop brought.timeLimit_eq_none
    | some (.ok reply), brought => exact check_ends _ _ _ reply brought
    | some (.error cause), _ => exact .write _ (.stop rfl)

/-- Visits stop as each of them does. -/
theorem visitAll_ends (config : Configuration) (client : Client) (paths : List String) :
    (visitAll config client paths).Ends (fun _ => True) (mayStop config.logLevel client.timeLimit) := by
  induction paths with
  | nil => exact .done trivial
  | cons path rest ih => exact (visit_ends config client path).bind fun _ _ => ih

/-- A verification stops for an error of its client or as its visits do. -/
theorem verify_ends (library : Library) (files : Files) (config : Configuration) :
    (verify library files config).Ends (fun _ => True) (mayStop config.logLevel config.timeLimit) := by
  -- The visits follow the preparation, whose client has the time limit of the configuration.
  rw [verify_eq]
  refine .write _ ((prepareClient_ends library files config _).bind fun prepared limited => ?_)
  cases prepared with
  | error cause => exact .stop rfl
  | ok client =>
    have visits := visitAll_ends config client privatePaths
    rw [limited client rfl] at visits
    exact .write _ (visits.bind fun _ _ => .write _ (.done trivial))

end Verification

end AccessProbe
