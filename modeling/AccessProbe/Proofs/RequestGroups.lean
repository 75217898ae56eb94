import AccessProbe.CommandLine.Task
import AccessProbe.Proofs.SessionRun
import AccessProbe.Proofs.TokenRun
import AccessProbe.Proofs.VerificationRun

/-! A server receives the requests of a task in groups, one per endpoint in order, whatever it answers. -/

namespace AccessProbe

/-- A request of this client to an endpoint of the target. -/
structure GoesTo (client : Client) (target : Url) (endpoint : Method × String) (request : Client × Call) : Prop where
  client : request.1 = client
  method : request.2.method = endpoint.1
  url : endpointUrl target endpoint.2 = .ok request.2.url

/-- GET requests for some paths go to these endpoints, one by one. -/
theorem looks_goTo {target : Url} {places : List (String × Url)} (client : Client)
    (found : ∀ place ∈ places, endpointUrl target place.1 = .ok place.2) :
    List.Forall₂ (GoesTo client target) ((places.map Prod.fst).map (Method.get, ·)) (client.looks places) := by
  induction places with
  | nil => exact .nil
  | cons place rest ih =>
    exact .cons ⟨rfl, rfl, found place (by simp)⟩ (ih fun place member => found place (by simp [member]))

/-- A plan that sends one request to each of these endpoints in this order, and all of them if it returns. -/
def Plan.Asks {α : Type} (plan : Plan α) (client : Client) (target : Url) (endpoints : List (Method × String)) :
    Prop :=
  ∃ requests, plan.Sends requests ∧ List.Forall₂ (GoesTo client target) endpoints requests

namespace Probe

variable {probe : Probe}

/-- A step of a session sends one request. -/
theorem step_sends {errand : Errand} {url : Url}
    (found : endpointUrl probe.target errand.path = .ok url) :
    (probe.step errand).Sends [(probe.client, errand.call probe.credentials url)] := by
  -- The report after the request sends nothing.
  refine (fetch_sends found).bind_nil fun received => ?_
  rw [reportWithCookies_eq]
  exact .note _ (.write _ (.write _ (.done ())))

/-- A session asks for the login and then for the health endpoint. -/
theorem session_asks (accepted : probe.target.IsTarget) :
    probe.session.Asks probe.client probe.target
      [(.post, "api/v1/user/login"), (.get, "api/v1/private/health")] := by
  -- Both endpoints have a URL on every target.
  obtain ⟨login, loginFound⟩ := Url.exists_endpointUrl accepted
    (show Url.isPlainPath Errand.login.path by decide)
  obtain ⟨health, healthFound⟩ := Url.exists_endpointUrl accepted
    (show Url.isPlainPath (Errand.look healthPath).path by decide)
  -- The second request does not depend on the first response.
  have turns : (probe.step .login >>= fun _ => probe.step (.look healthPath)).Sends _ :=
    (step_sends loginFound).bind fun _ => step_sends healthFound
  rw [← session_eq] at turns
  exact ⟨_, turns, .cons ⟨rfl, rfl, loginFound⟩ (.cons ⟨rfl, rfl, healthFound⟩ .nil)⟩

/-- A token run asks for its three paths. -/
theorem token_asks (accepted : probe.target.IsTarget) :
    probe.token.Asks probe.client probe.target [(.get, "api/v1/private/health"),
      (.get, "api/v1/private/loginwithpasswords"), (.get, "api/v1/private/creditcards")] := by
  -- The paths are asked for in order, and counting the failures sends nothing.
  obtain ⟨places, paths, found⟩ := Url.exists_places accepted
    (show tokenPaths.all Url.isPlainPath by decide)
  have asked := looks_goTo probe.client found
  rw [paths] at asked
  refine ⟨probe.client.looks places, ?_, asked⟩
  rw [token, ← paths]
  refine (countFailures_sends found).bind_nil fun failed => ?_
  split
  · exact .done ()
  · exact .stop _ _

/-- A registration asks for its endpoint. -/
theorem register_asks (accepted : probe.target.IsTarget) :
    probe.register.Asks probe.client probe.target [(.post, "api/v1/user/register")] := by
  -- The endpoint has a URL on every target.
  obtain ⟨url, found⟩ := Url.exists_endpointUrl accepted
    (show Url.isPlainPath Errand.registration.path by decide)
  exact ⟨_, (fetch_sends found).bind_nil report_sends, .cons ⟨rfl, rfl, found⟩ .nil⟩

/-- Listing secrets is a log record, a request and its report. -/
theorem list_eq (kind : SecretKind) : probe.list kind =
    .note ⟨.info, .probe, "Listing secrets of type " ++ kind.text⟩
      (probe.fetch (.look kind.listPath) >>= report) := Plan.tell_bind _ _

/-- Listing secrets asks for the path of the kind. -/
theorem list_asks (accepted : probe.target.IsTarget) (kind : SecretKind) :
    (probe.list kind).Asks probe.client probe.target [(.get, kind.listPath)] := by
  -- The paths of all kinds are plain, so the endpoint has a URL on every target.
  obtain ⟨url, found⟩ := Url.exists_endpointUrl accepted
    (show Url.isPlainPath (Errand.look kind.listPath).path by cases kind <;> decide)
  rw [list_eq]
  exact ⟨_, .note _ ((fetch_sends found).bind_nil report_sends), .cons ⟨rfl, rfl, found⟩ .nil⟩

end Probe

section Preparation

variable {library : Library} {files : Files} {config : Configuration} {α : Type}

/-- What follows the preparation of a client sends what it does with the result of `buildClient`. -/
theorem prepareClient_bind_sends {authentication : Authentication} {requests : List (Client × Call)}
    {rest : Except ClientError Client → Plan α}
    (after : (rest (buildClient library files config authentication)).Sends requests) :
    (prepareClient library files config authentication >>= rest).Sends requests := by
  unfold prepareClient
  -- A warning goes to the log only.
  split
  · exact .note _ after
  · exact after

/-- A client with the time limit of the configuration, built by this library. -/
structure Client.IsFor (client : Client) (library : Library) (config : Configuration) : Prop where
  timeLimit : client.timeLimit = config.timeLimit
  library : client.library = library

/-- Every client that is built is one. -/
theorem Client.isFor_of_buildClient {authentication : Authentication} {client : Client}
    (built : buildClient library files config authentication = .ok client) : client.IsFor library config := by
  -- Its three parts are known from `buildClient_eq_ok_iff`.
  obtain ⟨_, _, _, rfl⟩ := buildClient_eq_ok_iff.mp built
  exact ⟨rfl, rfl⟩

/-- A task asks for the endpoints that it asks for with every prepared client. -/
theorem prepare_asks {mode : Mode} {target : Url} {endpoints : List (Method × String)}
    {rest : Probe → Plan α}
    (after : ∀ client, (rest ⟨config.target, config.credentials, client⟩).Asks client target endpoints) :
    ∃ client : Client, client.IsFor library config ∧
      (Probe.prepare library files config mode >>= rest).Asks client target endpoints := by
  -- Either the builder fails before the first request, or the rest goes on with its client.
  cases built : buildClient library files config (.ofMode mode config) with
  | error cause =>
    -- Without a client nothing is sent, which is a prefix of any requests.
    obtain ⟨requests, _, asked⟩ := after ⟨[], config.timeLimit, library⟩
    refine ⟨_, ⟨rfl, rfl⟩, requests, ?_, asked⟩
    rw [Probe.prepare, Plan.bind_assoc]
    apply prepareClient_bind_sends
    rw [built]
    exact .stop _ _
  | ok client =>
    obtain ⟨requests, sends, asked⟩ := after client
    refine ⟨client, Client.isFor_of_buildClient built, requests, ?_, asked⟩
    rw [Probe.prepare, Plan.bind_assoc]
    apply prepareClient_bind_sends
    rw [built]
    exact sends

/-- A verification asks for all private paths. -/
theorem verify_asks (library : Library) (files : Files) (accepted : config.target.IsTarget) :
    ∃ client : Client, client.IsFor library config ∧
      (Verification.verify library files config).Asks client config.target [(.get, "api/v1/private/health"),
        (.get, "api/v1/private/loginwithpasswords"), (.get, "api/v1/private/creditcards"),
        (.get, "api/v1/private/secrettexts"), (.get, "api/v1/private/secretfiles")] := by
  -- The paths have URLs on every target, so every visit sends one request.
  obtain ⟨places, paths, found⟩ := Url.exists_places accepted
    (show privatePaths.all Url.isPlainPath by decide)
  have asked := fun client => looks_goTo client found
  rw [paths] at asked
  rw [Verification.verify_eq]
  cases built : buildClient library files config (.ofMode .token config) with
  | error cause =>
    -- Without a client the verification stops before its visits.
    refine ⟨⟨[], config.timeLimit, library⟩, ⟨rfl, rfl⟩, _, .write _ (prepareClient_bind_sends ?_), asked _⟩
    rw [built]
    exact .stop _ _
  | ok client =>
    refine ⟨client, Client.isFor_of_buildClient built, _, .write _ (prepareClient_bind_sends ?_), asked client⟩
    rw [built]
    refine .write _ (Plan.Sends.bind_nil ?_ fun _ => .write _ (.done ()))
    rw [← paths]
    exact Verification.visitAll_sends found

end Preparation

/-- The requests that belong to one endpoint. -/
structure IsGroup (client : Client) (target : Url) (endpoint : Method × String) (group : List Sighting) : Prop where
  /-- The first one goes to the endpoint itself. -/
  starts : ∃ url first, endpointUrl target endpoint.2 = .ok url ∧ group.head? = some first ∧
    first.request.method = endpoint.1 ∧ first.request.url = url.withoutUser
  /-- Each of the others follows a redirect of the one before it. -/
  linked : group.IsChain (Sighting.LeadsTo client)
  /-- There are ten redirects at most. -/
  limited : group.length ≤ 11

/-- The trail of a request to an endpoint is such a group. -/
theorem GoesTo.isGroup {client : Client} {target : Url} {endpoint : Method × String} {request : Client × Call}
    {group : List Sighting} (goes : GoesTo client target endpoint request)
    (trail : Trail request.1 request.2 group) : IsGroup client target endpoint group := by
  obtain ⟨sender, call⟩ := request
  obtain ⟨rfl, method, url⟩ := goes
  -- The first request of a trail is the one of the program, with the cookies of the jar.
  obtain ⟨first, isFirst, starts⟩ := Option.map_eq_some_iff.mp trail.starts
  refine ⟨⟨call.url, first, url, isFirst, ?_, ?_⟩, trail.linked, trail.limited⟩
  · rw [← method, Sighting.request, starts]
    rfl
  · rw [Sighting.request, starts]
    rfl

/-- The trails of requests to endpoints are groups of these endpoints. -/
theorem isGroup_of_trails {client : Client} {target : Url} {endpoints : List (Method × String)}
    {requests : List (Client × Call)} {groups : List (List Sighting)}
    (asked : List.Forall₂ (GoesTo client target) endpoints requests)
    (trails : List.Forall₂ (fun request group => Trail request.1 request.2 group) requests groups) :
    List.Forall₂ (IsGroup client target) endpoints groups := by
  -- The trail of a request is a group of the endpoint that the request goes to.
  induction asked generalizing groups with
  | nil =>
    cases trails
    exact .nil
  | cons goes _ ih =>
    cases trails with
    | cons trail others => exact .cons (goes.isGroup trail) (ih others)

/-- Requests to endpoints have the scheme of the target. -/
theorem scheme_of_goTo {client : Client} {target : Url} {endpoints : List (Method × String)}
    {requests : List (Client × Call)} (accepted : target.IsTarget)
    (plain : ∀ endpoint ∈ endpoints, Url.isPlainPath endpoint.2)
    (asked : List.Forall₂ (GoesTo client target) endpoints requests) :
    ∀ request ∈ requests, request.2.url.scheme = target.scheme := by
  -- Induction on the endpoints, each of which keeps the scheme.
  induction asked with
  | nil => simp
  | cons goes _ ih =>
    obtain ⟨first, others⟩ := List.forall_mem_cons.mp plain
    exact List.forall_mem_cons.mpr ⟨Url.scheme_of_endpointUrl accepted first goes.url, ih others⟩

namespace Plan.Asks

variable {α : Type} {plan : Plan α} {client : Client} {target : Url} {endpoints : List (Method × String)}
  {verbosity : Verbosity} {work : Work} {tunnels : Bool} {answers : List Answer}

/-- A run sends requests to the first so many endpoints, in order. -/
theorem attempted (asks : plan.Asks client target endpoints) (verbosity : Verbosity) (work : Work) :
    ∃ tried, tried <+: endpoints ∧ List.Forall₂ (GoesTo client target) tried (plan.requests verbosity work) := by
  obtain ⟨requests, sends, asked⟩ := asks
  -- A run sends a prefix of the requests, so these go to a prefix of the endpoints.
  obtain ⟨others, whole⟩ := sends.inTurn verbosity work
  rw [← whole] at asked
  exact ⟨_, List.take_prefix _ _, List.forall₂_take_append _ _ _ asked⟩

/-- A server that the target reaches receives one group per endpoint attempted. -/
theorem sees (asks : plan.Asks client target endpoints) (accepted : target.IsTarget)
    (plain : ∀ endpoint ∈ endpoints, Url.isPlainPath endpoint.2) (reached : Reached tunnels target)
    (scripted : work.wire.network = .scripted tunnels answers) : ∃ tried groups, tried <+: endpoints ∧
      List.Forall₂ (GoesTo client target) tried (plan.requests verbosity work) ∧
      List.Forall₂ (IsGroup client target) tried groups ∧
      work.wire.Sees tunnels answers groups.flatten (plan.run verbosity work).2.wire := by
  -- Every request leaves a trail, which is a group of its endpoint.
  obtain ⟨tried, first, asked⟩ := asks.attempted verbosity work
  have plainTried := fun endpoint member => plain endpoint (first.subset member)
  have schemes := scheme_of_goTo accepted plainTried asked
  -- The requests of the program reach the server like the target, whatever redirects do.
  obtain ⟨groups, trails, seen⟩ := Wire.sendAll_reached (plan.requests verbosity work) scripted
    fun request member => by rw [Reached, schemes request member]; exact reached
  rw [← wire_run] at seen
  exact ⟨tried, groups, first, asked, isGroup_of_trails asked trails, seen⟩

/-- A server that the target does not reach receives nothing. -/
theorem sees_nothing (asks : plan.Asks client target endpoints) (accepted : target.IsTarget)
    (plain : ∀ endpoint ∈ endpoints, Url.isPlainPath endpoint.2) (unreached : ¬ Reached tunnels target)
    (scripted : work.wire.network = .scripted tunnels answers) :
    (plan.run verbosity work).2.wire = work.wire := by
  -- All requests have the scheme of the target, so all their tunnels are refused.
  obtain ⟨tried, first, asked⟩ := asks.attempted verbosity work
  have plainTried := fun endpoint member => plain endpoint (first.subset member)
  have schemes := scheme_of_goTo accepted plainTried asked
  rw [wire_run]
  exact Wire.sendAll_unreached _ scripted
    fun request member => by rw [Reached, schemes request member]; exact unreached

end Plan.Asks

namespace CommandLine.Task

/-- The endpoints of a task, in order. -/
def endpoints : Task → List (Method × String)
  | .session => [(.post, "api/v1/user/login"), (.get, "api/v1/private/health")]
  | .token => [(.get, "api/v1/private/health"), (.get, "api/v1/private/loginwithpasswords"),
      (.get, "api/v1/private/creditcards")]
  | .register => [(.post, "api/v1/user/register")]
  | .list kind => [(.get, kind.listPath)]
  | .verifyAuth => [(.get, "api/v1/private/health"), (.get, "api/v1/private/loginwithpasswords"),
      (.get, "api/v1/private/creditcards"), (.get, "api/v1/private/secrettexts"),
      (.get, "api/v1/private/secretfiles")]

/-- The endpoints of a task are distinct. -/
theorem nodup_endpoints (task : Task) : task.endpoints.Nodup := by
  cases task with
  | list kind => simp [endpoints]
  | _ => decide

/-- The paths of all endpoints are plain. -/
theorem isPlainPath_of_mem_endpoints (task : Task) :
    ∀ endpoint ∈ task.endpoints, Url.isPlainPath endpoint.2 := by
  -- One case per task, and for lists of secrets one per kind.
  cases task with
  | list kind => cases kind <;> decide
  | _ => decide

/-- The plan of a task with a client for this authentication mode. -/
def planIn (task : Task) (mode : Mode) (library : Library) (files : Files) (config : Configuration) :
    Plan Unit := do
  match task with
  | .session => (← Probe.prepare library files config mode).session
  | .token => (← Probe.prepare library files config mode).token
  | .register => (← Probe.prepare library files config mode).register
  | .list kind => (← Probe.prepare library files config mode).list kind
  | .verifyAuth => Verification.verify library files config

/-- The authentication mode that the program uses for a task. -/
def mode : Task → Mode
  | .session => .session
  | .token | .list _ | .verifyAuth => .token
  | .register => .none

/-- The program runs every task in its own mode. -/
theorem plan_eq (task : Task) (library : Library) (files : Files) (config : Configuration) :
    task.plan library files config = task.planIn task.mode library files config := by
  cases task <;> rfl

/-- A task asks for its endpoints in every mode. -/
theorem planIn_asks {config : Configuration} (accepted : config.target.IsTarget) (task : Task)
    (mode : Mode) (library : Library) (files : Files) : ∃ client : Client, client.IsFor library config ∧
      (task.planIn mode library files config).Asks client config.target task.endpoints :=
  match task with
  | .session => prepare_asks fun _ => Probe.session_asks accepted
  | .token => prepare_asks fun _ => Probe.token_asks accepted
  | .register => prepare_asks fun _ => Probe.register_asks accepted
  | .list kind => prepare_asks fun _ => Probe.list_asks accepted kind
  | .verifyAuth => verify_asks library files accepted

/-- A server receives the requests of a task in groups, one per endpoint attempted, in the order of the
endpoints and without repetition, whatever it answers. A group starts with the request to its endpoint and
continues with redirects only. This holds for http targets, and for https targets if their tunnel is not
refused; if it is, the server receives nothing. -/
theorem requests_form_groups {config : Configuration} (accepted : config.target.IsTarget) (task : Task)
    (mode : Mode) (library : Library) (files : Files) (verbosity : Verbosity) {work : Work} {tunnels : Bool}
    {answers : List Answer} (scripted : work.wire.network = .scripted tunnels answers) :
    let plan := task.planIn mode library files config
    let later := (plan.run verbosity work).2.wire
    task.endpoints.Nodup ∧
    (config.target.scheme = "http" ∨ tunnels = true → ∃ (client : Client) (tried : List (Method × String))
      (groups : List (List Sighting)), client.IsFor library config ∧ tried <+: task.endpoints ∧
      List.Forall₂ (GoesTo client config.target) tried (plan.requests verbosity work) ∧
      List.Forall₂ (IsGroup client config.target) tried groups ∧
      work.wire.Sees tunnels answers groups.flatten later) ∧
    (config.target.scheme = "https" → tunnels = false → later.seen = work.wire.seen) := by
  -- The task asks for its endpoints, and what the server receives then depends on whether the target reaches
  -- it.
  intro plan later
  obtain ⟨client, isFor, asks⟩ := planIn_asks accepted task mode library files
  have plain := isPlainPath_of_mem_endpoints task
  refine ⟨nodup_endpoints task, fun opened => ?_, fun secure closed => ?_⟩
  · have reached : Reached tunnels config.target :=
      opened.symm.imp_right fun http secure => by simp [http] at secure
    obtain ⟨tried, groups, parts⟩ := asks.sees accepted plain reached scripted
    exact ⟨client, tried, groups, isFor, parts⟩
  · have unreached : ¬ Reached tunnels config.target := by simp [Reached, secure, closed]
    rw [show later = _ from asks.sees_nothing accepted plain unreached scripted]

/-- A login that is redirected once and then gets no answer is one group of two requests. -/
theorem session_forms_one_group :
    let config : Configuration := ⟨Url.loopback, "agent", "secret", none, none, .off⟩
    let answers : List Answer := [⟨303, [("Location", "/in")], [], none⟩]
    let wire : Wire := ⟨.scripted false answers, .empty 0 .asKept, []⟩
    let later := ((planIn .session .session .plain [] config).run .off ⟨wire, [], .empty none⟩).2.wire
    config.target.IsTarget ∧ config.target.scheme = "http" ∧ wire.network = .scripted false answers ∧
      later.seen.length = 2 ∧ ∃ client group, IsGroup client config.target (.post, "api/v1/user/login") group ∧
        later.seen = group.map Sighting.request := by
  intro config answers wire later
  have parts := requests_form_groups (show config.target.IsTarget from Url.loopback_isTarget) .session
    .session .plain [] .off (show (Work.mk wire [] (.empty none)).wire.network = .scripted false answers from rfl)
  obtain ⟨client, tried, groups, _, first, asked, isGroup, seen⟩ := parts.2.1 (.inl rfl)
  have one : ((planIn .session .session .plain [] config).requests .off ⟨wire, [], .empty none⟩).length = 1 := by
    decide +kernel
  -- The login gets no answer, so the second endpoint is never attempted.
  obtain ⟨endpoint, rfl⟩ := List.length_eq_one_iff.mp (asked.length_eq.trans one)
  obtain rfl := (List.cons_prefix_cons.mp first).1
  cases isGroup with
  | cons login others =>
    rename_i group rest
    cases others
    refine ⟨Url.loopback_isTarget, rfl, rfl, by decide +kernel, client, group, login, ?_⟩
    rw [seen.seen, List.flatten_cons, List.flatten_nil, List.append_nil]
    rfl

end CommandLine.Task

end AccessProbe
