import AccessProbe.Proofs.Http.Secrecy
import AccessProbe.Proofs.Http.Statuses
import AccessProbe.Proofs.PlanLikeness
import AccessProbe.Proofs.RequestGroups

/-! Two runs that differ in the password only have the same report, log and result. -/

namespace AccessProbe

namespace Plan

variable {α β : Type} {plan next : Plan α}

/-- A plan that logs nothing. -/
def Mute (plan : Plan α) : Prop := ∀ verbosity work, (plan.run verbosity work).2.log = work.log

namespace Mute

theorem done (value : α) : (Plan.done value).Mute := fun _ _ => rfl

theorem stop (cause : Unfinished) : (Plan.stop cause : Plan α).Mute := fun _ _ => rfl

/-- Writing to the report logs nothing. -/
theorem write (text : String) (after : next.Mute) : (Plan.write text next).Mute := by
  -- Whether the string fits or not, the log is left alone.
  intro verbosity work
  simp only [Plan.run]
  split
  · exact after _ _
  · rfl

theorem send (client : Client) (call : Call) {next : Option (Except SendError Reply) → Plan α}
    (after : ∀ reply, (next reply).Mute) : (Plan.send client call next).Mute :=
  fun _ _ => after _ _ _

theorem ofExcept (result : Except ProbeError α) : (Plan.ofExcept result).Mute :=
  match result with
  | .ok value => .done value
  | .error error => .stop (.failed error)

theorem await (awaited : Option α) : (Plan.await awaited).Mute :=
  match awaited with
  | some value => .done value
  | none => .stop .waiting

/-- The log of a sequence is that of its first plan, if the second one logs nothing. -/
theorem log_bind (plan : Plan α) {rest : α → Plan β} (after : ∀ value, (rest value).Mute)
    {verbosity : Verbosity} {work : Work} :
    ((plan >>= rest).run verbosity work).2.log = (plan.run verbosity work).2.log := by
  -- If the first plan returns a value the second one is run, and otherwise it is not.
  rw [run_bind]
  split
  · rename_i ended
    rw [after, ended]
  · rename_i ended
    rw [ended]

/-- A sequence of two plans that log nothing logs nothing. -/
theorem bind {rest : α → Plan β} (before : plan.Mute) (after : ∀ value, (rest value).Mute) :
    (plan >>= rest).Mute :=
  fun verbosity work => (log_bind plan after).trans (before verbosity work)

end Mute

end Plan

/-- The log record of a request has the login in it, but not the password. -/
theorem Errand.record_eq (errand : Errand) {credentials other : Credentials}
    (login : credentials.login = other.login) (url : Url) :
    errand.record credentials url = errand.record other url := by
  -- Cases on the kind of request; those with credentials name the login only.
  cases errand with
  | login => simp only [record, login]
  | registration => simp only [record, login]
  | look path => rfl

/-- Whether a request has a body, and whether that is empty, does not depend on the credentials. -/
theorem Errand.isEmpty_content (errand : Errand) (credentials other : Credentials) :
    (errand.content credentials).map List.isEmpty = (errand.content other).map List.isEmpty := by
  -- A body is always the JSON of credentials, which is never empty.
  have filled (credentials : Credentials) : (Utf8.encode credentials.json).isEmpty = false := by
    simpa using credentials.encode_json_ne_nil
  cases errand with
  | login => simp only [content, Option.map_some, filled]
  | registration => simp only [content, Option.map_some, filled]
  | look path => rfl

/-- Two clients that are equal up to the token. -/
structure Client.SameButToken (client other : Client) : Prop where
  /-- They read responses in the same way. -/
  agree : client.Agrees other
  /-- They have the same default headers, with the same values except for the token. -/
  defaults : client.defaults.Alike (isSecret .get) other.defaults

namespace Probe

/-- Two probes that are equal up to the password and what is made of it. -/
structure SameButPassword (probe other : Probe) : Prop where
  target : probe.target = other.target
  login : probe.credentials.login = other.credentials.login
  /-- Their clients are equal up to the token. -/
  client : probe.client.SameButToken other.client

namespace SameButPassword

variable {probe other : Probe}

/-- The attempts of the two are alike up to secrets. -/
theorem attempt (same : probe.SameButPassword other) (errand : Errand) :
    Plan.Alike .secrets Eq (probe.attempt errand) (other.attempt errand) := by
  -- Without a URL nothing is sent; with one the two requests differ in secrets only.
  cases found : endpointUrl other.target errand.path with
  | error cause =>
    -- The error names the target and the path only.
    simp only [Probe.attempt, same.target, found]
    exact .done rfl
  | ok url =>
    have mine : endpointUrl probe.target errand.path = .ok url := by rw [same.target, found]
    have calls : Likeness.secrets.hops (probe.client.first (errand.call probe.credentials url))
        (other.client.first (errand.call other.credentials url)) :=
      Client.first_sameButSecrets same.client.defaults rfl (errand.isEmpty_content _ _)
    rw [attempt_eq mine, attempt_eq found, errand.record_eq same.login]
    exact .note _ (.send same.client.agree calls fun _ => .refl Hop.SameButSecrets.refl _)

/-- So are the requests whose error ends the task. -/
theorem fetch (same : probe.SameButPassword other) (errand : Errand) :
    Plan.Alike .secrets Eq (probe.fetch errand) (other.fetch errand) :=
  (same.attempt errand).bind_eq fun _ => .refl Hop.SameButSecrets.refl _

/-- So are sessions. -/
theorem session (same : probe.SameButPassword other) :
    Plan.Alike .secrets Eq probe.session other.session :=
  (same.fetch _).bind_eq fun received => .bind_eq (.refl Hop.SameButSecrets.refl (reportWithCookies received))
    fun _ => (same.fetch _).bind_eq fun _ => .refl Hop.SameButSecrets.refl _

/-- So is counting failed attempts. -/
theorem countFailures (same : probe.SameButPassword other) (paths : List String) :
    Plan.Alike .secrets Eq (probe.countFailures paths) (other.countFailures paths) := by
  -- Attempts are alike one by one, and their outcomes, which are equal, are reported alike.
  induction paths with
  | nil => exact .done rfl
  | cons path rest ih =>
    exact (same.attempt (.look path)).bind_eq fun outcome =>
      .bind_eq (.refl Hop.SameButSecrets.refl (reportAttempt outcome)) fun _ =>
        ih.bind_eq fun _ => .done rfl

/-- So are token runs. -/
theorem token (same : probe.SameButPassword other) : Plan.Alike .secrets Eq probe.token other.token :=
  (same.countFailures tokenPaths).bind_eq fun _ => .refl Hop.SameButSecrets.refl _

/-- So are registrations. -/
theorem register (same : probe.SameButPassword other) :
    Plan.Alike .secrets Eq probe.register other.register :=
  (same.fetch _).bind_eq fun received => .refl Hop.SameButSecrets.refl (report received)

/-- So is listing secrets. -/
theorem list (same : probe.SameButPassword other) (kind : SecretKind) :
    Plan.Alike .secrets Eq (probe.list kind) (other.list kind) := by
  -- A log record without credentials, one request, one report.
  have fetched := same.fetch (.look kind.listPath)
  simp only [list_eq]
  exact .note _ (fetched.bind_eq fun received => .refl Hop.SameButSecrets.refl (report received))

end SameButPassword

end Probe

section Preparation

variable (library : Library) (files : Files) (config : Configuration) (password : String) (mode : Mode)

/-- Building a client with either password gives clients that are equal up to the token, or the same error. -/
theorem buildClient_sameButToken : ResultAlike Client.SameButToken
    (buildClient library files config (.ofMode mode config))
    (buildClient library files { config with password } (.ofMode mode { config with password })) := by
  -- The token is a valid header value for every password, so the password has no influence on errors.
  rw [buildClient, buildClient, clientHeaders_ofMode, clientHeaders_ofMode]
  have alike : Headers.Alike (isSecret .get)
      (if mode = .token then [("x-cenarius-token", config.credentials.token)] else [])
      (if mode = .token then [("x-cenarius-token", Credentials.token ⟨config.login, password⟩)] else []) := by
    split
    · exact .cons ⟨rfl, .inl (.inl rfl)⟩ .nil
    · exact .nil
  cases defaultHeaders files config.header with
  | error cause => exact .error _
  | ok given =>
    simp only [Except.mapError, Except.map, Except.bind, Library.client]
    cases library.fault? with
    | some causes => exact .error _
    | none => exact .ok ⟨⟨rfl, rfl⟩, alike.extend (.refl given)⟩

/-- Preparing a client is alike up to secrets. -/
theorem prepareClient_alike : Plan.Alike .secrets (ResultAlike Client.SameButToken)
    (prepareClient library files config (.ofMode mode config))
    (prepareClient library files { config with password } (.ofMode mode { config with password })) := by
  -- The warning depends on the mode and the target.
  have shows : showsTokenPlainly config.target (.ofMode mode { config with password }) =
      showsTokenPlainly config.target (.ofMode mode config) := by cases mode <;> rfl
  have clients := buildClient_sameButToken library files config password mode
  simp only [prepareClient, shows]
  split
  · exact .note _ (.done clients)
  · exact .done clients

/-- So is preparing a probe. -/
theorem Probe.prepare_alike : Plan.Alike .secrets Probe.SameButPassword
    (Probe.prepare library files config mode) (Probe.prepare library files { config with password } mode) := by
  -- An error of the client ends both plans, and otherwise the probes are equal up to the password.
  refine (prepareClient_alike library files config password mode).bind fun client other same => ?_
  cases same with
  | error cause => exact .stop _
  | ok clients => exact .done ⟨rfl, rfl, clients⟩

end Preparation

namespace Verification

variable {library : Library} {files : Files} {config : Configuration} {password : String} {client other : Client}

/-- So are visits. -/
theorem visit_alike (clients : client.SameButToken other) (path : String) :
    Plan.Alike .secrets Eq (visit config client path) (visit { config with password } other path) := by
  -- Without a URL nothing is sent; with one the two requests differ in the token only.
  cases found : endpointUrl config.target path with
  | error cause =>
    have otherMissing : endpointUrl { config with password }.target path = .error cause := found
    rw [visit_eq_fail found, visit_eq_fail otherMissing]
    exact .stop _
  | ok url =>
    have calls : Likeness.secrets.hops (client.first ⟨url, none⟩) (other.first ⟨url, none⟩) :=
      Client.first_sameButSecrets clients.defaults rfl rfl
    have otherFound : endpointUrl { config with password }.target path = .ok url := found
    rw [visit_eq found, visit_eq otherFound]
    exact .bind_eq (.refl Hop.SameButSecrets.refl _) fun _ =>
      .send clients.agree calls fun reply => .refl Hop.SameButSecrets.refl (settle config.logLevel url reply)

/-- So are several visits. -/
theorem visitAll_alike (clients : client.SameButToken other) (paths : List String) :
    Plan.Alike .secrets Eq (visitAll config client paths) (visitAll { config with password } other paths) := by
  induction paths with
  | nil => exact .done rfl
  | cons path rest ih => exact (visit_alike clients path).bind_eq fun _ => ih

/-- The token is shown at debug and below only. -/
theorem authenticatorText_hides {level : Verbosity} (hidden : level.shows .debug = false)
    (token otherToken : String) : authenticatorText level token = authenticatorText level otherToken := by
  -- The part with the token is empty at the other levels.
  have nothing : (if level.shows .debug then ": " ++ token else "") =
      if level.shows .debug then ": " ++ otherToken else "" := by
    rw [hidden]
    rfl
  unfold authenticatorText
  rw [nothing]

/-- Verifications above debug are alike up to secrets. -/
theorem verify_alike (hidden : config.logLevel.shows .debug = false) :
    Plan.Alike .secrets Eq (verify library files config) (verify library files { config with password }) := by
  -- They prepare a client, write one line and visit the endpoints.
  rw [verify_eq, verify_eq]
  have prepared := prepareClient_alike library files config password .token
  refine .write _ (prepared.bind fun client otherClient same => ?_)
  cases same with
  | error cause => exact .stop _
  | ok clients =>
    -- The line before the visits is the only one that may show the token.
    rw [begin, begin, authenticatorText_hides hidden config.credentials.token
      { config with password }.credentials.token]
    exact .write _ ((visitAll_alike clients privatePaths).bind_eq fun _ => .write _ (.done rfl))

/-- An info line goes to the report, not to the log. -/
theorem sayInfo_mute (level : Verbosity) (text : String) : (sayInfo level text).Mute := by
  unfold sayInfo
  split
  · exact .write _ (.done ())
  · exact .done ()

/-- What a verification makes of a reply is not logged. -/
theorem settle_mute (level : Verbosity) (url : Url) (sent : Option (Except SendError Reply)) :
    (settle level url sent).Mute := by
  -- All of it is written to the report or an error.
  match sent with
  | none => exact .stop _
  | some (.error cause) => exact .write _ (.stop _)
  | some (.ok reply) =>
    simp only [settle, check]
    split
    · exact .write _ (.stop _)
    · split
      · exact (Plan.Mute.await _).bind fun _ => (Plan.Mute.ofExcept _).bind fun _ => .write _ (.done ())
      · exact .done ()

/-- Visits log nothing. -/
theorem visitAll_mute (config : Configuration) (client : Client) (paths : List String) :
    (visitAll config client paths).Mute := by
  -- Induction on the paths; a visit only writes and sends.
  induction paths with
  | nil => exact .done ()
  | cons path rest ih =>
    refine .bind ?_ fun _ => ih
    cases found : endpointUrl config.target path with
    | error cause =>
      rw [visit_eq_fail found]
      exact .stop _
    | ok url =>
      rw [visit_eq found]
      exact (sayInfo_mute _ _).bind fun _ => .send _ _ (settle_mute _ _)

/-- After preparing its client a verification logs nothing. -/
theorem begin_mute (config : Configuration) (prepared : Except ClientError Client) :
    (begin config prepared).Mute := by
  -- It stops with the error of the client, or writes and visits.
  cases prepared with
  | error cause => exact .stop _
  | ok client => exact .write _ ((visitAll_mute config client privatePaths).bind fun _ => .write _ (.done ()))

/-- The log of a verification is the same with either password, at every log level. -/
theorem log_verify (verbosity : Verbosity) (work : Work) :
    ((verify library files { config with password }).run verbosity work).2.log =
      ((verify library files config).run verbosity work).2.log := by
  -- All records are those of preparing the client, which is alike up to secrets once the client is dropped from its result.
  have silent (prepared : Except ClientError Client) : (Plan.done ()).Mute := .done ()
  have start : Plan.Alike .secrets Eq
      (.write banner (prepareClient library files config (.ofMode .token config)) >>= fun _ => .done ())
      (.write banner (prepareClient library files { config with password }
        (.ofMode .token { config with password })) >>= fun _ => .done ()) :=
    .bind (.write _ (prepareClient_alike library files config password .token)) fun _ _ _ => .done rfl
  obtain ⟨_, told, _⟩ := start.run (.start rfl rfl) verbosity work.log work.report
  rw [Plan.Mute.log_bind _ silent, Plan.Mute.log_bind _ silent] at told
  have whole (config : Configuration) : ((verify library files config).run verbosity work).2.log =
      ((Plan.write banner (prepareClient library files config (.ofMode .token config))).run verbosity
        work).2.log :=
    Plan.Mute.log_bind (.write banner (prepareClient library files config (.ofMode .token config)))
      (begin_mute config)
  rw [whole, whole, told]

end Verification

namespace CommandLine.Task

/-- Tasks are alike up to secrets, except for a verification at debug or below. -/
theorem planIn_alike (task : Task) (mode : Mode) (library : Library) (files : Files) (config : Configuration)
    (password : String) (hidden : task = .verifyAuth → config.logLevel.shows .debug = false) :
    Plan.Alike .secrets Eq (task.planIn mode library files config)
      (task.planIn mode library files { config with password }) := by
  -- The probes are prepared alike, and their steps are alike for probes that differ in the password only.
  have prepared := Probe.prepare_alike library files config password mode
  cases task with
  | session => exact prepared.bind fun _ _ same => same.session
  | token => exact prepared.bind fun _ _ same => same.token
  | register => exact prepared.bind fun _ _ same => same.register
  | list kind => exact prepared.bind fun _ _ same => same.list kind
  | verifyAuth => exact Verification.verify_alike (hidden rfl)

/-- The log of a task is the same with either password. -/
theorem log_planIn (task : Task) (mode : Mode) (library : Library) (files : Files) (config : Configuration)
    (password : String) (verbosity : Verbosity) (work : Work) :
    ((task.planIn mode library files { config with password }).run verbosity work).2.log =
      ((task.planIn mode library files config).run verbosity work).2.log := by
  -- A verification has its own lemma, since its report may differ at debug.
  by_cases verifies : task = .verifyAuth
  · subst verifies
    exact Verification.log_verify verbosity work
  · have alike := planIn_alike task mode library files config password fun verifying => absurd verifying verifies
    exact (alike.run (.start rfl rfl) verbosity work.log work.report).2.1.symm

/-- The log of a task is the same whatever the password is. So are its report, its result and its requests, up
to the token, the body and its length, except for a verification at debug or below. -/
theorem password_stays_secret (task : Task) (mode : Mode) (library : Library) (files : Files)
    (config : Configuration) (password : String) (verbosity : Verbosity) (work : Work) :
    let ended := (task.planIn mode library files config).run verbosity work
    let otherEnded := (task.planIn mode library files { config with password }).run verbosity work
    otherEnded.2.log = ended.2.log ∧
      ((task = .verifyAuth → config.logLevel ∈ [.off, .error, .warn, .info]) →
        otherEnded.1 = ended.1 ∧ otherEnded.2.report = ended.2.report ∧
        ∃ sent otherSent, ended.2.wire.seen = work.wire.seen ++ sent ∧
          otherEnded.2.wire.seen = work.wire.seen ++ otherSent ∧
          List.Forall₂ Request.SameButSecrets sent otherSent) := by
  -- The two runs are alike up to secrets, and what that means for a run is `Plan.Alike.run`.
  intro ended otherEnded
  refine ⟨log_planIn task mode library files config password verbosity work, fun low => ?_⟩
  have quiet : ∀ level ∈ [Verbosity.off, .error, .warn, .info], level.shows .debug = false := by decide
  have alike := planIn_alike task mode library files config password fun verifies => quiet _ (low verifies)
  obtain ⟨result, _, report, wires⟩ := alike.run (.start rfl rfl) verbosity work.log work.report
  exact ⟨result.symm, report.symm, wires.seen⟩

/-- The requests of two verifications differ in the token, and their reports do not. -/
theorem verification_hides_password :
    let config : Configuration := ⟨Url.loopback, "agent", "secret", none, none, .info⟩
    let work : Work := .start (.scripted false [⟨401, [], [], none⟩]) 0 .asKept none
    let ended := (planIn .verifyAuth .token .plain [] config).run .info work
    let otherEnded := (planIn .verifyAuth .token .plain [] { config with password := "hidden" }).run .info work
    config.logLevel ∈ [.off, .error, .warn, .info] ∧ otherEnded.2.report = ended.2.report ∧
      ended.2.wire.seen ≠ otherEnded.2.wire.seen ∧
      List.Forall₂ Request.SameButSecrets ended.2.wire.seen otherEnded.2.wire.seen := by
  intro config work ended otherEnded
  have low : config.logLevel ∈ [.off, .error, .warn, .info] := by decide
  have differ : ended.2.wire.seen ≠ otherEnded.2.wire.seen := by decide +kernel
  obtain ⟨_, same⟩ := password_stays_secret .verifyAuth .token .plain [] config "hidden" .info work
  obtain ⟨_, report, sent, otherSent, seen, otherSeen, alike⟩ := same fun _ => low
  have unseen : work.wire.seen = [] := rfl
  rw [unseen, List.nil_append] at seen otherSeen
  with_reducible refine ⟨low, report, differ, ?_⟩
  with_reducible rw [show ended.2.wire.seen = sent from seen,
    show otherEnded.2.wire.seen = otherSent from otherSeen]
  exact alike

end CommandLine.Task

end AccessProbe
