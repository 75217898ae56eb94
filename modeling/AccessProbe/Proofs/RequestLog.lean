import AccessProbe.Proofs.SentRequests
import AccessProbe.Proofs.Telling

/-! The log records of requests: one before each of them, and one for its failure in token runs only. -/

namespace AccessProbe

/-- Whether a record is the one before a request. -/
def LogRecord.isRequest (record : LogRecord) : Bool :=
  record.severity = .debug &&
    ("GET ".toList.isPrefixOf record.message.toList || "POST ".toList.isPrefixOf record.message.toList)

/-- Whether a request failed: it got no response, or a body that could not be read. Waiting for ever is no
failure. -/
def hasFailed : Option (Except SendError Reply) → Bool
  | some (.error _) => true
  | some (.ok reply) => match reply.text with
    | some (.error _) => true
    | some (.ok _) | none => false
  | none => false

/-- The records of one request: the one before it first, and one for its failure if the task goes on after
failures. -/
structure TellsOf (persistent : Bool) (attempt : Attempt) (group : List LogRecord) : Prop where
  /-- The first record names the method and the URL, and no other one is about a request. -/
  first : ∃ record rest, group = record :: rest ∧ record.severity = .debug ∧
    (attempt.1.2.method.text ++ " " ++ attempt.1.2.url.text).toList <+: record.message.toList ∧
    ∀ other ∈ rest, other.isRequest = false
  /-- There is one error record for a failure, if the task goes on after it. -/
  failures : group.countP (·.severity = .error) = if persistent && hasFailed attempt.2 then 1 else 0
  /-- There is no warning. -/
  harmless : ∀ record ∈ group, record.severity ≠ .warn

/-- At debug and below every record is shown. -/
theorem Verbosity.kept_eq_self {verbosity : Verbosity} (shown : verbosity.shows .debug) (records : List LogRecord) :
    verbosity.kept records = records := by
  simp only [shows, decide_eq_true_eq] at shown
  rw [kept, List.filter_eq_self]
  intro record _
  -- No severity ranks after debug.
  have most : record.severity.rank ≤ Severity.debug.rank := by
    cases record.severity <;> decide
  simpa [shows] using Nat.le_trans most shown

namespace Probe

variable {probe : Probe} {errand : Errand} {url : Url} {persistent : Bool} {α : Type}

/-- The record for the outcome of an attempt, if there is one. -/
def endingTold (persistent : Bool) : Option (Except ProbeError Received) → List LogRecord
  | some (.ok received) => [statusRecord received]
  | some (.error error) => if persistent then [failureRecord error] else []
  | none => []

/-- The record before a request starts with its method and URL. -/
theorem record_names (errand : Errand) (credentials : Credentials) (url : Url) :
    (errand.record credentials url).severity = .debug ∧
      ((errand.call credentials url).method.text ++ " " ++ url.text).toList <+:
        (errand.record credentials url).message.toList := by
  -- After the URL there is the login at most.
  have behind (word rest : String) :
      ("POST" ++ " " ++ url.text).toList <+: ("POST " ++ url.text ++ word ++ rest).toList := by
    simp only [String.toList_append, List.append_assoc]
    exact ⟨word.toList ++ rest.toList, by simp⟩
  cases errand with
  | login => exact ⟨rfl, behind _ _⟩
  | registration => exact ⟨rfl, behind _ _⟩
  | look path => exact ⟨rfl, by simp [Errand.record, Errand.call, Errand.content, Call.method, Method.text]⟩

/-- The record of a response is not about a request. -/
theorem isRequest_statusRecord (received : Received) : (statusRecord received).isRequest = false := by
  -- Its message starts with a fixed text that is no method.
  simp [LogRecord.isRequest, statusRecord, List.isPrefixOf]

/-- Nor is the record of a failure. -/
theorem isRequest_failureRecord (error : ProbeError) : (failureRecord error).isRequest = false := rfl

/-- A request failed if and only if its attempt has an error as its outcome. -/
theorem hasFailed_eq (errand : Errand) (url : Url) (reply : Option (Except SendError Reply)) :
    hasFailed reply = ((errand.outcome url reply).bind failure?).isSome := by
  -- A reply fails without a response or without its body, and then so does the attempt.
  match reply with
  | none => rfl
  | some (.error cause) => rfl
  | some (.ok ⟨status, cookies, none⟩) => rfl
  | some (.ok ⟨status, cookies, some (.error cause)⟩) => rfl
  | some (.ok ⟨status, cookies, some (.ok text)⟩) => rfl

/-- The record before a request together with that of its outcome are the records of that request. -/
theorem tellsOf_attempt (persistent : Bool) (client : Client) (errand : Errand)
    (credentials : Credentials) (url : Url) (reply : Option (Except SendError Reply)) :
    TellsOf persistent ((client, errand.call credentials url), reply)
      (errand.record credentials url :: endingTold persistent (errand.outcome url reply)) := by
  -- The three parts depend on the outcome only.
  obtain ⟨severity, names⟩ := record_names errand credentials url
  have weight : (errand.record credentials url).severity ≠ .error := by rw [severity]; decide
  have calm : (errand.record credentials url).severity ≠ .warn := by rw [severity]; decide
  have failed := hasFailed_eq errand url reply
  -- There are three kinds of outcome: none, a response, an error.
  generalize errand.outcome url reply = outcome at failed
  refine ⟨⟨_, _, rfl, severity, names, ?_⟩, ?_, ?_⟩
  · match outcome with
    | none => simp [endingTold]
    | some (.ok received) => simpa [endingTold] using isRequest_statusRecord received
    | some (.error error) => cases persistent <;> simp [endingTold, isRequest_failureRecord]
  · rw [failed]
    match outcome with
    | none => simp [endingTold, weight]
    | some (.ok received) => simp [endingTold, failure?, statusRecord, weight]
    | some (.error error) => cases persistent <;> simp [endingTold, failure?, failureRecord, weight]
  · match outcome with
    | none => simp [endingTold, calm]
    | some (.ok received) => simp [endingTold, statusRecord, calm]
    | some (.error error) => cases persistent <;> simp [endingTold, failureRecord, calm]

/-- An attempt followed by logging its outcome is one group of records. -/
theorem attempt_tells {rest : Except ProbeError Received → Plan α}
    (found : endpointUrl probe.target errand.path = .ok url) (silent : ∀ outcome, (rest outcome).Sends [])
    (told : ∀ outcome verbosity work, ((rest outcome).run verbosity work).2.log =
      work.log ++ verbosity.kept (endingTold persistent (some outcome))) :
    (probe.attempt errand >>= rest).Tells [] (TellsOf persistent) := by
  intro verbosity ⟨wire, log, report⟩
  -- An attempt that waits for ever is followed by nothing and has no record of its outcome.
  have toldAwaited (outcome : Option (Except ProbeError Received)) (work : Work) :
      ((Plan.await outcome >>= rest).run verbosity work).2.log =
        work.log ++ verbosity.kept (endingTold persistent outcome) := by
    cases outcome with
    | none => exact (List.append_nil _).symm
    | some outcome => exact told outcome verbosity work
  have whole : (probe.attempt errand >>= rest) = .note (errand.record probe.credentials url)
      (.send probe.client (errand.call probe.credentials url) fun reply =>
        .await (errand.outcome url reply) >>= rest) := by
    rw [attempt_eq found]
    rfl
  have ran : ((probe.attempt errand >>= rest).run verbosity ⟨wire, log, report⟩).2.log = log ++
      verbosity.kept (errand.record probe.credentials url :: endingTold persistent
        (errand.outcome url (wire.send probe.client (errand.call probe.credentials url)).1)) := by
    rw [whole]
    simp only [Plan.run, Plan.note_eq]
    rw [toldAwaited, List.append_assoc, ← Verbosity.kept_append, List.singleton_append]
  -- What follows the attempt sends nothing, so there is one request.
  have requested : (probe.attempt errand >>= rest).requests verbosity ⟨wire, log, report⟩ =
      [(probe.client, errand.call probe.credentials url)] := by
    have quiet (outcome : Option (Except ProbeError Received)) : (Plan.await outcome >>= rest).Sends [] :=
      (Plan.Sends.await outcome).bind silent
    rw [whole]
    exact congrArg (_ :: ·) ((quiet _).requests_eq_nil _)
  have asked : (probe.attempt errand >>= rest).attempts verbosity ⟨wire, log, report⟩ =
      [((probe.client, errand.call probe.credentials url),
        (wire.send probe.client (errand.call probe.credentials url)).1)] := by
    rw [Plan.attempts, requested]
    rfl
  generalize (wire.send probe.client (errand.call probe.credentials url)).1 = reply at ran asked
  refine ⟨[], [errand.record probe.credentials url :: endingTold persistent (errand.outcome url reply)], ?_,
    List.prefix_rfl, .inl rfl, ?_⟩
  · rw [ran, List.nil_append, List.flatten_singleton]
  · rw [asked]
    exact .cons (tellsOf_attempt persistent ..) .nil

/-- Reporting a response logs its status, whether the report has room or not. -/
theorem log_report (received : Received) (verbosity : Verbosity) (work : Work) :
    ((report received).run verbosity work).2.log = work.log ++ verbosity.kept [statusRecord received] := by
  -- The record comes before the line, and writing logs nothing.
  obtain ⟨wire, log, report⟩ := work
  show ((Plan.note (statusRecord received) (.write (responseLine received) (.done ()))).run _ _).2.log = _
  rw [Plan.run, Plan.note_eq]
  exact Plan.Mute.write _ (.done ()) verbosity _

/-- A request whose error ends the task is one group, without a record of its failure. -/
theorem fetch_tells {tell : Received → Plan α} (found : endpointUrl probe.target errand.path = .ok url)
    (silent : ∀ received, (tell received).Sends [])
    (told : ∀ received verbosity work, ((tell received).run verbosity work).2.log =
      work.log ++ verbosity.kept [statusRecord received]) :
    (probe.fetch errand >>= tell).Tells [] (TellsOf false) := by
  -- An error ends the task before anything is logged.
  rw [fetch, Plan.bind_assoc]
  refine attempt_tells found (fun outcome => ?_) (fun outcome verbosity work => ?_)
  · cases outcome with
    | ok received => exact silent received
    | error error => exact .stop _ []
  · cases outcome with
    | ok received => exact told received verbosity work
    | error error => exact (List.append_nil _).symm

/-- A step of a session is one group. -/
theorem step_tells (found : endpointUrl probe.target errand.path = .ok url) :
    (probe.step errand).Tells [] (TellsOf false) := by
  -- It is a request followed by its report.
  refine fetch_tells found (fun received => ?_) (fun received verbosity work => ?_)
  · rw [reportWithCookies_eq]
    exact .note _ (.write _ (.write _ (.done ())))
  · -- The cookies are written after the report of the response and not logged.
    exact (Plan.Mute.log_bind (report received) fun _ => .write _ (.done ())).trans
      (log_report received verbosity work)

/-- A session has one group per step. -/
theorem session_tells (accepted : probe.target.IsTarget) : probe.session.Tells [] (TellsOf false) := by
  -- Both endpoints have a URL, so both steps are attempts.
  obtain ⟨login, loginFound⟩ := Url.exists_endpointUrl accepted
    (show Url.isPlainPath Errand.login.path by decide)
  obtain ⟨health, healthFound⟩ := Url.exists_endpointUrl accepted
    (show Url.isPlainPath (Errand.look healthPath).path by decide)
  rw [session_eq]
  exact (step_tells loginFound).bind fun _ => step_tells healthFound

/-- A registration is one group. -/
theorem register_tells (accepted : probe.target.IsTarget) : probe.register.Tells [] (TellsOf false) := by
  -- The endpoint has a URL, so the registration is an attempt.
  obtain ⟨url, found⟩ := Url.exists_endpointUrl accepted
    (show Url.isPlainPath Errand.registration.path by decide)
  exact fetch_tells found report_sends log_report

/-- Listing secrets is one record followed by one group. -/
theorem list_tells (accepted : probe.target.IsTarget) (kind : SecretKind) :
    (probe.list kind).Tells [⟨.info, .probe, "Listing secrets of type " ++ kind.text⟩] (TellsOf false) := by
  -- The paths of all kinds have a URL.
  obtain ⟨url, found⟩ := Url.exists_endpointUrl accepted
    (show Url.isPlainPath (Errand.look kind.listPath).path by cases kind <;> decide)
  rw [list_eq]
  exact .note _ (fetch_tells found report_sends log_report)

/-- Counting failed attempts has one group per attempt, with a record of its failure. -/
theorem countFailures_tells (accepted : probe.target.IsTarget) {paths : List String}
    (plain : paths.all Url.isPlainPath) : (probe.countFailures paths).Tells [] (TellsOf true) := by
  -- Each attempt with its report makes one group.
  induction paths with
  | nil => exact .silent (.done 0) (.done 0)
  | cons path rest ih =>
    rw [List.all_cons, Bool.and_eq_true] at plain
    obtain ⟨url, found⟩ := Url.exists_endpointUrl accepted
      (show Url.isPlainPath (Errand.look path).path from plain.1)
    -- The first attempt with its report is one group, with a record of its failure before the error line.
    have first : (probe.attempt (.look path) >>= reportAttempt).Tells [] (TellsOf true) := by
      refine attempt_tells found reportAttempt_sends fun outcome verbosity work => ?_
      cases outcome with
      | ok received =>
        exact (Plan.Mute.log_bind (report received) fun _ => .done 0).trans (log_report received verbosity work)
      | error error =>
        obtain ⟨wire, log, report⟩ := work
        show ((Plan.note (failureRecord error) (.write (errorLine error) (.done 1))).run _ _).2.log = _
        rw [Plan.run, Plan.note_eq]
        exact Plan.Mute.write _ (.done 1) verbosity _
    have whole : probe.countFailures (path :: rest) = (probe.attempt (.look path) >>= reportAttempt) >>=
        fun failed => probe.countFailures rest >>= fun more => .done (failed + more) := (Plan.bind_assoc ..).symm
    rw [whole]
    exact first.bind fun failed => (ih plain.2).bind fun more => .silent (.done _) (.done _)

/-- A token run has one group per path. -/
theorem token_tells (accepted : probe.target.IsTarget) : probe.token.Tells [] (TellsOf true) := by
  -- What follows the attempts logs nothing.
  refine (countFailures_tells accepted (by decide)).bind fun failed => ?_
  split
  · exact .silent (.done ()) (.done ())
  · exact .silent (.stop _) (.stop _ _)

end Probe

section Preparation

variable {library : Library} {files : Files} {config : Configuration} {of : Attempt → List LogRecord → Prop}

/-- Preparing a client logs the warning, if there is one. -/
theorem prepareClient_tells (authentication : Authentication) : (prepareClient library files config
    authentication).Tells (Verification.warnings config authentication) of := by
  unfold prepareClient Verification.warnings
  split
  · exact .note _ (.silent (.done _) (.done _))
  · exact .silent (.done _) (.done _)

/-- Preparing a probe logs nothing else. -/
theorem Probe.prepare_tells (library : Library) (files : Files) (mode : Mode) {α : Type} {preface : List LogRecord}
    {work : Probe → Plan α}
    (after : ∀ client, (work ⟨config.target, config.credentials, client⟩).Tells preface of) :
    (Probe.prepare library files config mode >>= work).Tells
      (Verification.warnings config (.ofMode mode config) ++ preface) of := by
  -- An error of the client ends the task without another record.
  rw [Probe.prepare, Plan.bind_assoc]
  refine (prepareClient_tells _).prepend (fun prepared => ?_) (.inr (Verification.prepareClient_sends ..))
  cases prepared with
  | error cause => exact .stop _
  | ok client => exact after client

/-- A verification logs the warning and nothing about its requests. -/
theorem Verification.verify_tells (library : Library) (files : Files) (config : Configuration) :
    (verify library files config).Tells (warnings config (.ofMode .token config)) fun _ group => group = [] := by
  -- After preparing its client it logs nothing.
  rw [verify_eq]
  exact .write _ ((prepareClient_tells _).bind fun prepared => .mute (begin_mute config prepared))

end Preparation

namespace CommandLine.Task

/-- The record of a task about itself. -/
def remarks : Task → List LogRecord
  | .list kind => [⟨.info, .probe, "Listing secrets of type " ++ kind.text⟩]
  | .session | .token | .register | .verifyAuth => []

/-- The records of a task before its first request. -/
def preface (task : Task) (mode : Mode) (config : Configuration) : List LogRecord :=
  Verification.warnings config (.ofMode (task.modeIn mode) config) ++ task.remarks

/-- The records of one request of a task: none for a verification, and failures for token runs only. -/
def TellsOf : Task → Attempt → List LogRecord → Prop
  | .session | .register | .list _ => AccessProbe.TellsOf false
  | .token => AccessProbe.TellsOf true
  | .verifyAuth => fun _ group => group = []

/-- Empty groups have no records. -/
theorem flatten_of_empty {attempts : List Attempt} {groups : List (List LogRecord)}
    (empty : List.Forall₂ (fun _ group => group = []) attempts groups) : groups.flatten = [] := by
  induction empty with
  | nil => rfl
  | cons nothing _ ih => rw [List.flatten_cons, nothing, ih, List.append_nil]

/-- The log of a task consists of its preface and the groups of its requests. -/
theorem planIn_tells {config : Configuration} (accepted : config.target.IsTarget) (task : Task) (mode : Mode)
    (library : Library) (files : Files) : (task.planIn mode library files config).Tells
      (task.preface mode config) task.TellsOf := by
  -- Preparing the probe logs the preface, and the step behind it one group per request.
  cases task with
  | session => exact Probe.prepare_tells library files mode fun _ => Probe.session_tells accepted
  | token => exact Probe.prepare_tells library files mode fun _ => Probe.token_tells accepted
  | register => exact Probe.prepare_tells library files mode fun _ => Probe.register_tells accepted
  | list kind => exact Probe.prepare_tells library files mode fun _ => Probe.list_tells accepted kind
  | verifyAuth =>
    rw [preface, remarks, List.append_nil]
    exact Verification.verify_tells library files config

/-- The record of a task about itself is informational. -/
theorem severity_remarks (task : Task) : ∀ record ∈ task.remarks, record.severity = .info := by
  -- Only listing secrets has one.
  cases task with
  | list kind => simp [remarks]
  | _ => exact nofun

/-- The preface of a task has warnings and informational records only. -/
theorem severity_preface (task : Task) (mode : Mode) (config : Configuration) :
    ∀ record ∈ task.preface mode config, record.severity = .warn ∨ record.severity = .info := by
  -- It consists of the warning and the record about the task.
  intro record member
  rcases List.mem_append.mp member with warned | remarked
  · unfold Verification.warnings at warned
    split at warned
    · rw [List.mem_singleton.mp warned]
      exact .inl rfl
    · cases warned
  · exact .inr (severity_remarks task record remarked)

/-- At debug and below the log of a task is a preface without requests and failures, followed by one group of
records per request in order. A group starts with the one record that names the method and the URL of its
request. In token runs it has one error record if the request failed; the other tasks log no failures. A
verification does not log its requests at all. -/
theorem log_tells_of_requests {config : Configuration} (accepted : config.target.IsTarget) (task : Task)
    (mode : Mode) (library : Library) (files : Files) {verbosity : Verbosity} (shown : verbosity.shows .debug)
    (work : Work) :
    let plan := task.planIn mode library files config
    let ended := plan.run verbosity work
    let requests := plan.requests verbosity work
    let replies := (work.wire.sendAll requests).1
    (∃ (client : Client) (tried : List (Method × String)), client.IsFor library config ∧
      tried <+: task.endpoints ∧ List.Forall₂ (GoesTo client config.target) tried requests) ∧
    ended.2.wire = (work.wire.sendAll requests).2 ∧
    ∃ first groups, ended.2.log = work.log ++ first ++ groups.flatten ∧
      (∀ record ∈ first, record.severity = .warn ∨ record.severity = .info) ∧
      (task ≠ .verifyAuth → List.Forall₂ (AccessProbe.TellsOf (task = .token)) (requests.zip replies) groups) ∧
      (task = .verifyAuth → groups.flatten = []) := by
  -- The groups come from `planIn_tells`, where every record is shown at this verbosity.
  intro plan ended requests replies
  obtain ⟨first, groups, told⟩ := planIn_tells accepted task mode library files verbosity work
  obtain ⟨client, isFor, asks⟩ := planIn_asks accepted task mode library files
  obtain ⟨tried, isPrefix, asked⟩ := asks.attempted verbosity work
  refine ⟨⟨client, tried, isFor, isPrefix, asked⟩, Plan.wire_run plan work, first, groups,
    ?_, fun record member => severity_preface task mode config record (told.begins.subset member), ?_, ?_⟩
  · rw [show ended.2.log = _ from told.log, Verbosity.kept_eq_self shown, List.append_assoc]
  · intro other
    have grouped := told.grouped
    cases task with
    | session => exact grouped
    | token => exact grouped
    | register => exact grouped
    | list kind => exact grouped
    | verifyAuth => exact absurd rfl other
  · rintro rfl
    exact flatten_of_empty told.grouped

/-- A token run whose second answer is truncated logs three groups with one failure. -/
theorem log_tells_of_broken_answer :
    let config : Configuration := ⟨Url.loopback, "agent", "secret", none, none, .debug⟩
    let answers : List Answer := [⟨200, [], [], none⟩, ⟨200, [], [], some .truncate⟩, ⟨401, [], [], none⟩]
    let plan := planIn .token .token .plain [] config
    let work : Work := .start (.scripted false answers) 0 .asKept none
    let requests := plan.requests .debug work
    config.target.IsTarget ∧ Verbosity.debug.shows .debug = true ∧ requests.length = 3 ∧
      (plan.run .debug work).2.log.countP (·.severity = .error) = 1 ∧ ∃ first groups,
        (plan.run .debug work).2.log = work.log ++ first ++ groups.flatten ∧
        List.Forall₂ (AccessProbe.TellsOf true) (requests.zip (work.wire.sendAll requests).1) groups := by
  intro config answers plan work requests
  obtain ⟨_, _, first, groups, told, _, grouped, _⟩ :=
    log_tells_of_requests (show config.target.IsTarget from Url.loopback_isTarget) .token .token .plain []
      (show Verbosity.debug.shows .debug = true by decide) work
  have three : requests.length = 3 := by decide +kernel
  have one : (plan.run .debug work).2.log.countP (·.severity = .error) = 1 := by decide +kernel
  have named : Task.token ≠ .verifyAuth := by decide
  with_reducible refine ⟨Url.loopback_isTarget, by decide, three, one, first, groups, told, ?_⟩
  exact grouped named

/-- Other tasks log no failures, and a verification does not log its requests. -/
theorem log_misses_failures :
    let config : Configuration := ⟨Url.loopback, "agent", "secret", none, none, .trace⟩
    let work : Work := .start (.scripted false []) 0 .asKept none
    let listed := (planIn (.list .loginWithPassword) .token .plain [] config).run .trace work
    let verified := (planIn .verifyAuth .token .plain [] config).run .trace work
    listed.2.wire.seen.length = 1 ∧ listed.2.log.map LogRecord.text =
      ["WARN Sending credentials in the X-Cenarius-Token header over plain http to http://[::1]:8080/",
        "INFO Listing secrets of type login with password",
        "DEBUG GET http://[::1]:8080/api/v1/private/loginwithpasswords"] ∧
    verified.2.wire.seen.length = 1 ∧ verified.2.log.map LogRecord.text =
      ["WARN Sending credentials in the X-Cenarius-Token header over plain http to http://[::1]:8080/"] := by
  decide +kernel

end CommandLine.Task

end AccessProbe
