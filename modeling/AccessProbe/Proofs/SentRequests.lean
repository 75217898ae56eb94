import AccessProbe.Proofs.Authentication
import AccessProbe.Proofs.Http.Carried
import AccessProbe.Proofs.RequestGroups

/-! The requests that tasks send, and that servers receive these and their redirects only. -/

namespace AccessProbe

/-- Requests sent one after another leave trails only, one for each request that reaches the server. -/
theorem Wire.sendAll_trails {wire : Wire} {tunnels : Bool} {answers : List Answer}
    (requests : List (Client × Call)) (scripted : wire.network = .scripted tunnels answers) :
    ∃ groups : List (List Sighting),
      (∀ group ∈ groups, ∃ request ∈ requests, Trail request.1 request.2 group) ∧
      wire.Sees tunnels answers groups.flatten (wire.sendAll requests).2 := by
  -- Each request has a trail of its own, in the script that the earlier ones have left.
  induction requests generalizing wire answers with
  | nil => exact ⟨[], nofun, .nil scripted⟩
  | cons request rest ih =>
    obtain ⟨client, call⟩ := request
    by_cases reached : Reached tunnels call.url
    · -- A request that reaches the server leaves a trail, and the others take their answers from the rest of
      -- the script.
      obtain ⟨group, trail, sees⟩ := send_reached client scripted reached
      obtain ⟨groups, trails, seesRest⟩ := ih sees.network
      refine ⟨group :: groups, fun other member => ?_, sees.append seesRest⟩
      rcases List.mem_cons.mp member with rfl | later
      · exact ⟨(client, call), List.mem_cons_self, trail⟩
      · obtain ⟨request, made, trail⟩ := trails other later
        exact ⟨request, List.mem_cons_of_mem _ made, trail⟩
    · -- A request whose tunnel is refused changes nothing.
      have refused := send_unreached client scripted reached
      obtain ⟨groups, trails, sees⟩ := ih scripted
      refine ⟨groups, fun group member => ?_, ?_⟩
      · obtain ⟨request, made, trail⟩ := trails group member
        exact ⟨request, List.mem_cons_of_mem _ made, trail⟩
      · simp only [sendAll, refused]
        exact sees

namespace Plan

variable {α β : Type} {allowed : Client → Call → Prop} {verbosity : Verbosity}

/-- A plan whose requests are all allowed, whatever servers reply. -/
inductive SendsOnly (allowed : Client → Call → Prop) : Plan α → Prop where
  /-- It returns. -/
  | done (value : α) : SendsOnly allowed (.done value)
  /-- It stops. -/
  | stop (cause : Unfinished) : SendsOnly allowed (.stop cause)
  /-- It writes to the report first. -/
  | write (text : String) {next : Plan α} (after : SendsOnly allowed next) : SendsOnly allowed (.write text next)
  /-- It writes to the log first. -/
  | note (record : LogRecord) {next : Plan α} (after : SendsOnly allowed next) :
    SendsOnly allowed (.note record next)
  /-- It sends an allowed request first. -/
  | send {client : Client} {call : Call} (kind : allowed client call)
    {next : Option (Except SendError Reply) → Plan α}
    (after : ∀ reply, SendsOnly allowed (next reply)) : SendsOnly allowed (.send client call next)

namespace SendsOnly

/-- A sequence sends allowed requests only if both plans do. -/
theorem bind {plan : Plan α} {rest : α → Plan β} (before : plan.SendsOnly allowed)
    (after : ∀ value, (rest value).SendsOnly allowed) : (plan >>= rest).SendsOnly allowed := by
  show (plan.bind rest).SendsOnly allowed
  induction before with
  | done value => exact after value
  | stop cause => exact .stop cause
  | write text _ ih => exact .write text ih
  | note record _ ih => exact .note record ih
  | send kind _ ih => exact .send kind ih

/-- More requests may be allowed. -/
theorem imp {plan : Plan α} (only : plan.SendsOnly allowed) {wider : Client → Call → Prop}
    (more : ∀ client call, allowed client call → wider client call) : plan.SendsOnly wider := by
  induction only with
  | done value => exact .done value
  | stop cause => exact .stop cause
  | write text _ ih => exact .write text ih
  | note record _ ih => exact .note record ih
  | send kind _ ih => exact .send (more _ _ kind) ih

theorem ofExcept (result : Except ProbeError α) : (Plan.ofExcept result).SendsOnly allowed :=
  match result with
  | .ok value => .done value
  | .error error => .stop (.failed error)

theorem await (awaited : Option α) : (Plan.await awaited).SendsOnly allowed :=
  match awaited with
  | some value => .done value
  | none => .stop .waiting

/-- Every request of a run is allowed. -/
theorem requests {plan : Plan α} (only : plan.SendsOnly allowed) (work : Work) :
    ∀ request ∈ plan.requests verbosity work, allowed request.1 request.2 := by
  -- A run makes no request that is not one of the plan, whatever the replies are.
  induction only generalizing work with
  | done value => simp [Plan.requests, acts]
  | stop cause => simp [Plan.requests, acts]
  | write text _ ih =>
    -- At the report limit the run ends.
    simp only [Plan.requests, acts]
    split
    · exact ih _
    · simp [Act.sent?]
  | note record _ ih => exact ih _
  | send kind _ ih => exact List.forall_mem_cons.mpr ⟨kind, ih _ _⟩

/-- A server receives trails of allowed requests only. -/
theorem trails {plan : Plan α} (only : plan.SendsOnly allowed) (verbosity : Verbosity) {work : Work}
    {tunnels : Bool} {answers : List Answer} (scripted : work.wire.network = .scripted tunnels answers) :
    ∃ groups : List (List Sighting),
      (∀ group ∈ groups, ∃ client call, allowed client call ∧ Trail client call group) ∧
      work.wire.Sees tunnels answers groups.flatten (plan.run verbosity work).2.wire := by
  -- The run leaves the wire as sending its requests does, and all of those are allowed.
  obtain ⟨groups, trails, sees⟩ := Wire.sendAll_trails (plan.requests verbosity work) scripted
  refine ⟨groups, fun group member => ?_, by rw [wire_run]; exact sees⟩
  obtain ⟨request, made, trail⟩ := trails group member
  exact ⟨request.1, request.2, only.requests work request made, trail⟩

end SendsOnly

end Plan

/-- A request with these credentials to an endpoint of the target, sent by the given client. -/
structure MadeFor (target : Url) (credentials : Credentials) (given client : Client) (call : Call) : Prop where
  /-- The client is the given one. -/
  client_eq : client = given
  /-- The request goes to an endpoint with a plain path. -/
  errand : ∃ errand url, Url.isPlainPath (Errand.path errand) ∧ endpointUrl target errand.path = .ok url ∧
    call = errand.call credentials url

namespace Probe

/-- The requests of a probe. -/
abbrev Makes (probe : Probe) : Client → Call → Prop := MadeFor probe.target probe.credentials probe.client

variable (probe : Probe)

/-- An attempt sends such a request at most. -/
theorem attempt_sendsOnly {errand : Errand} (plain : Url.isPlainPath errand.path) :
    (probe.attempt errand).SendsOnly probe.Makes := by
  cases found : endpointUrl probe.target errand.path with
  | error cause =>
    -- Without a URL nothing is sent.
    simp only [attempt, found]
    exact .done _
  | ok url =>
    rw [attempt_eq found]
    exact .note _ (.send ⟨rfl, errand, url, plain, found, rfl⟩ fun _ => .await _)

/-- So does a request whose error ends the task. -/
theorem fetch_sendsOnly {errand : Errand} (plain : Url.isPlainPath errand.path) :
    (probe.fetch errand).SendsOnly probe.Makes :=
  (probe.attempt_sendsOnly plain).bind fun _ => .ofExcept _

/-- A report sends nothing. -/
theorem report_sendsOnly (received : Received) : (report received).SendsOnly probe.Makes :=
  .note _ (.write _ (.done ()))

/-- A step of a session sends such a request at most. -/
theorem step_sendsOnly {errand : Errand} (plain : Url.isPlainPath errand.path) :
    (probe.step errand).SendsOnly probe.Makes := by
  -- The report after the request sends nothing.
  refine (probe.fetch_sendsOnly plain).bind fun received => ?_
  rw [reportWithCookies_eq]
  exact .note _ (.write _ (.write _ (.done ())))

/-- So does a session. -/
theorem session_sendsOnly : probe.session.SendsOnly probe.Makes := by
  -- A session is two steps.
  rw [session_eq]
  exact (probe.step_sendsOnly (by decide)).bind fun _ => probe.step_sendsOnly (by decide)

/-- So does counting failed attempts. -/
theorem countFailures_sendsOnly {paths : List String} (plain : paths.all Url.isPlainPath) :
    (probe.countFailures paths).SendsOnly probe.Makes := by
  -- Each attempt sends a request of its own path, and its report sends none.
  induction paths with
  | nil => exact .done 0
  | cons path rest ih =>
    rw [List.all_cons, Bool.and_eq_true] at plain
    have attempted := probe.attempt_sendsOnly (show Url.isPlainPath (Errand.look path).path from plain.1)
    refine attempted.bind fun outcome => .bind ?_ fun _ => (ih plain.2).bind fun _ => .done _
    cases outcome with
    | ok received => exact (probe.report_sendsOnly received).bind fun _ => .done 0
    | error error => exact .note _ (.write _ (.done 1))

/-- So does a token run. -/
theorem token_sendsOnly : probe.token.SendsOnly probe.Makes := by
  -- What follows the attempts sends nothing.
  refine (probe.countFailures_sendsOnly (by decide)).bind fun failed => ?_
  split
  · exact .done ()
  · exact .stop _

/-- So does a registration. -/
theorem register_sendsOnly : probe.register.SendsOnly probe.Makes :=
  (probe.fetch_sendsOnly (by decide)).bind probe.report_sendsOnly

/-- So does listing secrets. -/
theorem list_sendsOnly (kind : SecretKind) : (probe.list kind).SendsOnly probe.Makes := by
  -- The paths of all kinds are plain.
  have plain : Url.isPlainPath (Errand.look kind.listPath).path := by cases kind <;> decide
  rw [list_eq]
  exact .note _ ((probe.fetch_sendsOnly plain).bind probe.report_sendsOnly)

end Probe

section Preparation

variable {library : Library} {files : Files} {config : Configuration} {allowed : Client → Call → Prop} {α : Type}

/-- What follows the preparation of a client sends what it does with the result of `buildClient`. -/
theorem prepareClient_sendsOnly {authentication : Authentication} {rest : Except ClientError Client → Plan α}
    (after : (rest (buildClient library files config authentication)).SendsOnly allowed) :
    (prepareClient library files config authentication >>= rest).SendsOnly allowed := by
  unfold prepareClient
  -- A warning goes to the log only.
  split
  · exact .note _ after
  · exact after

/-- The requests of a configuration in a mode, sent by the client that is built for it. -/
structure Configuration.Makes (config : Configuration) (library : Library) (files : Files) (mode : Mode)
    (client : Client) (call : Call) : Prop where
  /-- The client is built for this mode. -/
  built : buildClient library files config (.ofMode mode config) = .ok client
  /-- The request goes to an endpoint of the target with the credentials of the configuration. -/
  errand : ∃ errand url, Url.isPlainPath (Errand.path errand) ∧ endpointUrl config.target errand.path = .ok url ∧
    call = errand.call config.credentials url

/-- The requests of a client that is built for a mode are such requests. -/
theorem MadeFor.makes {mode : Mode} {given client : Client} {call : Call}
    (built : buildClient library files config (.ofMode mode config) = .ok given)
    (made : MadeFor config.target config.credentials given client call) :
    config.Makes library files mode client call :=
  ⟨made.client_eq ▸ built, made.errand⟩

/-- A task of a probe sends the requests of its configuration only. -/
theorem Probe.prepare_sendsOnly {work : Probe → Plan α} (mode : Mode)
    (makes : ∀ probe, (work probe).SendsOnly probe.Makes) :
    (Probe.prepare library files config mode >>= work).SendsOnly (config.Makes library files mode) := by
  -- The probe has the target and the credentials of the configuration.
  rw [Probe.prepare, Plan.bind_assoc]
  apply prepareClient_sendsOnly
  -- Without a client nothing is sent.
  cases built : buildClient library files config (.ofMode mode config) with
  | error cause => exact .stop _
  | ok client =>
    exact (makes ⟨config.target, config.credentials, client⟩).imp fun _ _ made => made.makes built

end Preparation

namespace Verification

variable {config : Configuration} {client : Client}

/-- A visit sends one request with the credentials of the configuration at most. -/
theorem visit_sendsOnly {path : String} (plain : Url.isPlainPath path) : (visit config client path).SendsOnly
    (MadeFor config.target config.credentials client) := by
  -- Without a URL the visit fails at once, with one it sends the one request.
  cases found : endpointUrl config.target path with
  | error cause =>
    rw [visit_eq_fail found]
    exact .stop _
  | ok url =>
    rw [visit_eq found]
    -- Neither the info line nor what follows the reply sends anything.
    have silent : (sayInfo config.logLevel ("Path: " ++ path ++ "\n")).SendsOnly
        (MadeFor config.target config.credentials client) := by
      unfold sayInfo
      split
      · exact .write _ (.done ())
      · exact .done ()
    refine silent.bind fun _ => .send ⟨rfl, .look path, url, plain, found, rfl⟩ fun reply => ?_
    match reply with
    | none => exact .stop _
    | some (.error cause) => exact .write _ (.stop _)
    | some (.ok reply) =>
      simp only [settle, check]
      split
      · exact .write _ (.stop _)
      · split
        · exact (Plan.SendsOnly.await _).bind fun _ => (Plan.SendsOnly.ofExcept _).bind fun _ => .write _ (.done ())
        · exact .done ()

/-- So do several visits, one each. -/
theorem visitAll_sendsOnly {paths : List String} (plain : paths.all Url.isPlainPath) :
    (visitAll config client paths).SendsOnly (MadeFor config.target config.credentials client) := by
  induction paths with
  | nil => exact .done ()
  | cons path rest ih =>
    rw [List.all_cons, Bool.and_eq_true] at plain
    exact (visit_sendsOnly plain.1).bind fun _ => ih plain.2

end Verification

namespace CommandLine.Task

/-- The mode that a task runs in: a verification is always in token mode. -/
def modeIn (task : Task) (mode : Mode) : Mode :=
  match task with
  | .verifyAuth => .token
  | .session | .token | .register | .list _ => mode

/-- A task sends the requests of its configuration in its mode only. -/
theorem planIn_sendsOnly (task : Task) (mode : Mode) (library : Library) (files : Files) (config : Configuration) :
    (task.planIn mode library files config).SendsOnly (config.Makes library files (task.modeIn mode)) := by
  -- Preparing the probe sends nothing, so that only the step behind it counts.
  cases task with
  | session => exact Probe.prepare_sendsOnly mode Probe.session_sendsOnly
  | token => exact Probe.prepare_sendsOnly mode Probe.token_sendsOnly
  | register => exact Probe.prepare_sendsOnly mode Probe.register_sendsOnly
  | list kind => exact Probe.prepare_sendsOnly mode fun probe => probe.list_sendsOnly kind
  | verifyAuth =>
    -- A verification has no probe, but prepares the client of its visits in the same way.
    rw [planIn, Verification.verify_eq]
    refine .write _ (prepareClient_sendsOnly ?_)
    cases built : buildClient library files config (.ofMode .token config) with
    | error cause => exact .stop _
    | ok client =>
      have visited : (Verification.visitAll config client privatePaths).SendsOnly
          (MadeFor config.target config.credentials client) := Verification.visitAll_sendsOnly (by decide)
      have made := visited.imp fun _ _ (made : MadeFor config.target config.credentials client _ _) =>
        show config.Makes library files .token _ _ from made.makes built
      exact .write _ (made.bind fun _ => .write _ (.done ()))

end CommandLine.Task

end AccessProbe
