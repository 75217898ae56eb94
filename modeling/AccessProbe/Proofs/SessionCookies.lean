import Mathlib.Data.List.Nodup
import AccessProbe.Proofs.EndpointPath
import AccessProbe.Proofs.HeaderPrecedence
import AccessProbe.Proofs.Http.Jar
import AccessProbe.Proofs.SessionRun
import AccessProbe.Proofs.StepSequence

/-! The second request of a session has the cookies that the login sets for the whole server. -/

namespace AccessProbe

/-- The health endpoint is outside the directory of the login endpoint. -/
theorem Jar.outside_of_endpoints {target login health : Url} (accepted : target.IsTarget)
    (loginFound : endpointUrl target loginPath = .ok login)
    (healthFound : endpointUrl target healthPath = .ok health) : ∃ host, Jar.Outside login host health := by
  -- Both have the host of the target, so their paths decide.
  obtain ⟨host, named⟩ := accepted.host
  have loginPlain : Url.isPlainPath loginPath := by decide
  have healthPlain : Url.isPlainPath healthPath := by decide
  -- Both paths extend that of the target, and differ from the third segment after it.
  have loginText : login.pathText.toList =
      (target.directoryText ++ "/api/v1/user".toList) ++ '/' :: "login".toList := by
    rw [Url.pathText_endpoint accepted loginPlain loginFound, List.append_assoc]
    rfl
  have healthText : health.pathText.toList = target.directoryText ++ "/api/v1/private/health".toList := by
    rw [Url.pathText_endpoint accepted healthPlain healthFound]
    rfl
  have directory : directory login.pathText.toList = target.directoryText ++ "/api/v1/user".toList := by
    rw [loginText]
    exact directory_append (by decide) (by simp)
  refine ⟨host, ?_, ?_, ?_, ?_⟩
  · rw [Url.host_of_endpointUrl accepted loginPlain loginFound, named]
  · rw [Url.host_of_endpointUrl accepted healthPlain healthFound, named]
  · have begins : ['/'] <+: health.pathText.toList := by
      rw [healthText]
      exact target.slash_prefix_directoryText _
    simp [isBelow, List.isPrefixOf_iff_prefix.mpr begins]
  · -- After the common start one path continues with "user" and the other one with "private".
    have parted : (target.directoryText ++ "/api/v1/user".toList).isPrefixOf
        (target.directoryText ++ "/api/v1/private/health".toList) = false := by
      rw [Bool.eq_false_iff, ne_eq, List.isPrefixOf_iff_prefix, List.prefix_append_right_inj]
      decide
    rw [directory, healthText, isBelow, parted]
    rfl

namespace Wire

variable {wire : Wire} {tunnels : Bool} {answers : List Answer} {client : Client} {call : Call}

/-- A response that is not redirected becomes the reply, and its cookies go into the jar. -/
theorem send_final {answer : Answer} {response : Response}
    (scripted : wire.network = .scripted tunnels (answer :: answers)) (reached : Reached tunnels call.url)
    (arrives : client.receive answer = some (.ok response)) (stays : Hop.location? call.url response = none) :
    wire.send client call = (some (.ok (client.reply call.url response)), ⟨.scripted tunnels answers,
      wire.jar.insertAll call.url (response.values "set-cookie"),
      wire.seen ++ [(client.first call).request wire.jar]⟩) := by
  -- The chain of the request ends with its first answer, which the tunnel test lets through.
  obtain ⟨network, jar, seen⟩ := wire
  subst scripted
  have url : (client.first call).url = call.url := rfl
  have passes : ¬ (((client.first call).request jar).url.scheme = "https" ∧ tunnels = false) := by
    rintro ⟨secure, closed⟩
    exact reached.elim (fun opened => by cases opened.symm.trans closed) fun plain => plain secure
  have carried : (Wire.mk (.scripted tunnels (answer :: answers)) jar seen).carry client (client.first call) =
      (some (.ok response), ⟨.scripted tunnels answers, jar.insertAll call.url (response.values "set-cookie"),
        seen ++ [(client.first call).request jar]⟩) := by
    simp [carry, Network.exchange, passes, arrives, url]
  have settled : (Wire.mk (.scripted tunnels (answer :: answers)) jar seen).leg client (client.first call) =
      (.settled (some (.ok (call.url, response))), ⟨.scripted tunnels answers, jar.insertAll call.url
        (response.values "set-cookie"), seen ++ [(client.first call).request jar]⟩) := by
    simp only [leg, carried, url, stays]
  rw [send, follow_settled (congrArg Prod.fst settled), settled]
  rfl

/-- A request that reaches the server is received with the cookies of the jar, before its redirects. -/
theorem seen_send (client : Client) (scripted : wire.network = .scripted tunnels answers)
    (reached : Reached tunnels call.url) :
    ∃ rest, (wire.send client call).2.seen = wire.seen ++ (client.first call).request wire.jar :: rest := by
  -- The trail starts with the request itself.
  obtain ⟨rest, sees, _⟩ := follow_reached client redirectLimit scripted
    (show Reached tunnels (client.first call).url from reached)
  exact ⟨rest.map Sighting.request, sees.seen⟩

end Wire

/-- A request has the cookies of the jar, if the default headers set none. -/
theorem Client.values_cookie {client : Client} (ordered : client.defaults.Ordered)
    (free : client.defaults.get? "cookie" = none) (call : Call) (jar : Jar) :
    ((client.first call).request jar).headers.values "cookie" = (jar.field? call.url).toList := by
  -- The jar sets `cookie` as a default, which is free here.
  have shown : ((client.first call).request jar).headers.Ordered :=
    Hop.ordered_request (client.ordered_fields call) jar
  have own : (client.first call).ownFields.get? "cookie" = none := by
    have started : (client.fields call).get? "cookie" = none := (get?_fields ordered call (by decide)).trans free
    have first : (client.first call).ownFields = (client.fields call).withDefault "host"
      (Hop.hostField call.url) := rfl
    rw [first, Headers.get?_withDefault_of_ne _ _ (by decide), started]
  have url : (client.first call).url = call.url := rfl
  -- No header occurs twice, and the value of this one is that of the jar.
  rw [shown.values_eq, Hop.request, Hop.get?_framed _ _ (by decide)]
  simp only [Hop.shownFields, url]
  cases jar.field? call.url with
  | none => simp [own]
  | some cookies => simp [Headers.get?_withDefault_self, own]

namespace Probe

variable {verbosity : Verbosity} {wire : Wire}

/-- A session whose login succeeds continues with the wire that it leaves. -/
theorem wire_session {probe : Probe} {login health : Url} {log : List LogRecord} {written : List UInt8}
    {greeting : Received} (loginFound : endpointUrl probe.target loginPath = .ok login)
    (healthFound : endpointUrl probe.target healthPath = .ok health)
    (entered : Errand.login.outcome login
      (wire.send probe.client (Errand.login.call probe.credentials login)).1 = some (.ok greeting)) :
    (probe.session.run verbosity ⟨wire, log, ⟨written, none⟩⟩).2.wire =
      ((wire.send probe.client (Errand.login.call probe.credentials login)).2.send probe.client
        ⟨health, none⟩).2 := by
  -- The first step of the session ends with a response, so the second one is run.
  have start : endpointUrl probe.target Errand.login.path = .ok login := loginFound
  have found : endpointUrl probe.target (Errand.look healthPath).path = .ok health := healthFound
  rw [run_session_ok start entered, greeted]
  -- However the second step ends, its request has been sent.
  let looked := (Errand.look healthPath).outcome health ((wire.send probe.client
    (Errand.login.call probe.credentials login)).2.send probe.client ⟨health, none⟩).1
  match ended : looked with
  | some (.ok answer) => simp only [run_step_ok found ended]; rfl
  | some (.error error) =>
    have stopped : Plan.resolved looked = .error (.failed error) := by rw [ended]; rfl
    simp only [run_step_stop found stopped]
    rfl
  | none =>
    have stopped : Plan.resolved looked = .error .waiting := by rw [ended]; rfl
    simp only [run_step_stop found stopped]
    rfl

end Probe

/-- If the default headers set no cookies, a session whose login gets a response requests the health endpoint
next. That request has each cookie name which the login set for the whole server once, with the last value set
for it, and no other cookie: cookies without a path belong to the directory of the login only, even with the
same name. -/
theorem session_shows_cookies_for_whole_server {library : Library} {files : Files} {config : Configuration}
    {others : Headers} (accepted : config.target.IsTarget) {tunnels : Bool}
    (reached : Reached tunnels config.target) (loads : defaultHeaders files config.header = .ok others)
    (builds : library.fault? = none)
    (undefined : ∀ entries, headerEntries files config.header = .ok entries →
      ∀ entry ∈ entries, headerName? entry.1 ≠ some "cookie")
    (mode : Mode) (verbosity : Verbosity) (now : Int) (order : CookieOrder) {login : Url}
    (found : endpointUrl config.target "api/v1/user/login" = .ok login) {answer : Answer} (answers : List Answer)
    {client : Client} (fits : client.IsFor library config) {response : Response} {bytes : List UInt8}
    (arrives : client.receive answer = some (.ok response)) (complete : response.body = some (.ok bytes))
    (stays : Hop.location? login response = none) {handed : List HandedCookie}
    (sets : response.values "set-cookie" = handed.map HandedCookie.text) :
    ∃ health enter look rest shown, endpointUrl config.target "api/v1/private/health" = .ok health ∧
      ((CommandLine.Task.planIn .session mode library files config).run verbosity
        (.start (.scripted tunnels (answer :: answers)) now order none)).2.wire.seen = enter :: look :: rest ∧
      enter.url = login.withoutUser ∧ look.method = .get ∧ look.url = health.withoutUser ∧
      (shown.map Prod.fst).Nodup ∧
      (∀ name value, (name, value) ∈ shown ↔ HandedCookie.lastValue? handed name = some value) ∧
      look.headers.values "cookie" = if shown = [] then []
        else [String.intercalate "; " (shown.map fun pair => pair.1 ++ "=" ++ pair.2)] := by
  -- The run is traced up to the second request: the client is built, the login is answered, the jar takes its
  -- cookies, and the health request is received with them.
  obtain ⟨health, healthFound⟩ := Url.exists_endpointUrl accepted (show Url.isPlainPath healthPath by decide)
  have loginFound : endpointUrl config.target loginPath = .ok login := found
  obtain ⟨host, outside⟩ := Jar.outside_of_endpoints accepted loginFound healthFound
  obtain ⟨fields, ready, built⟩ := exists_buildClient loads builds mode
  obtain ⟨ordered, standard⟩ := get?_clientHeaders_of_undefined ready undefined
  have free : fields.get? "cookie" = none := standard.trans (by simp [standardValue?])
  have loginReached : Reached tunnels login := by
    rwa [Reached, Url.scheme_of_endpointUrl accepted (by decide) loginFound]
  have healthReached : Reached tunnels health := by
    rwa [Reached, Url.scheme_of_endpointUrl accepted (by decide) healthFound]
  let probe : Probe := ⟨config.target, config.credentials, ⟨fields, config.timeLimit, library⟩⟩
  let enter : Call := Errand.login.call config.credentials login
  let look : Call := ⟨health, none⟩
  let wire : Wire := ⟨.scripted tunnels (answer :: answers), .empty now order, []⟩
  let jar : Jar := (Jar.empty now order).insertAll login (response.values "set-cookie")
  let middle : Wire := ⟨.scripted tunnels answers, jar, [(probe.client.first enter).request (.empty now order)]⟩
  -- The client of the session reads the answer like any client with this time limit and library.
  have agrees : probe.client.Agrees client := ⟨fits.timeLimit.symm, fits.library.symm⟩
  -- The login is one request, whose response is read and leaves its cookies in the jar.
  have sent : wire.send probe.client enter = (some (.ok (probe.client.reply login response)), middle) :=
    Wire.send_final rfl loginReached ((agrees.receive answer).trans arrives) stays
  have shows : Jar.Shows login host health (HandedCookie.shown handed) jar := by
    have taken := Jar.insertAll_shows outside now order handed
    rwa [← sets] at taken
  obtain ⟨greeting, entered⟩ : ∃ greeting,
      Errand.login.outcome login (wire.send probe.client enter).1 = some (.ok greeting) := by
    obtain ⟨status, headers, body⟩ := response
    obtain rfl : body = some (.ok bytes) := complete
    rw [sent]
    exact ⟨_, rfl⟩
  -- The next request starts with that jar, and is the second one received.
  obtain ⟨log, prepared⟩ := Probe.run_prepare_ok (.empty none) built
  have ran : ((CommandLine.Task.planIn .session mode library files config).run verbosity
      (.start (.scripted tunnels (answer :: answers)) now order none)).2.wire =
        (middle.send probe.client look).2 := by
    show ((Probe.prepare library files config mode >>= Probe.session).run verbosity
      ⟨wire, [], .empty none⟩).2.wire = _
    rw [Plan.run_bind, prepared]
    show (probe.session.run verbosity ⟨wire, log, ⟨[], none⟩⟩).2.wire = _
    rw [Probe.wire_session loginFound healthFound entered]
    show ((wire.send probe.client enter).2.send probe.client look).2 = _
    rw [sent]
  have next : middle.network = .scripted tunnels answers := rfl
  obtain ⟨rest, seen⟩ := Wire.seen_send probe.client next (show Reached tunnels look.url from healthReached)
  -- The jar orders the cookies in its own way, with the same names and values.
  obtain ⟨parts, rearranged, field⟩ := shows.exists_field?_eq
  have empty : parts = [] ↔ HandedCookie.shown handed = [] := by
    constructor
    · rintro rfl
      exact rearranged.nil_eq.symm
    · intro none
      exact (none ▸ rearranged).eq_nil
  refine ⟨health, (probe.client.first enter).request (.empty now order), (probe.client.first look).request jar,
    rest, parts, healthFound, ?_, rfl, rfl, rfl, ?_, fun name value => ?_, ?_⟩
  · rw [ran, seen]
    rfl
  · exact (rearranged.map Prod.fst).nodup_iff.mpr (HandedCookie.nodup_shown handed)
  · rw [rearranged.mem_iff]
    exact HandedCookie.mem_shown handed name value
  · rw [Client.values_cookie ordered free look jar, show jar.field? look.url = _ from field]
    simp only [empty]
    split
    · rfl
    · rfl

/-- A name that is set three times is sent once, with the last value set for the whole server. -/
theorem session_shows_last_value :
    let target := Url.onLoopback ["cenarius"]
    let config : Configuration := ⟨target, "agent", "secret", none, none, .off⟩
    let answer : Answer := ⟨401, [("Set-Cookie", "id=1; Path=/"), ("set-cookie", "id=2; Path=/"),
      ("Set-Cookie", "id=3")], [0x68, 0x69], none⟩
    target.IsTarget ∧ ∃ enter look rest,
      ((CommandLine.Task.planIn .session .session .plain [] config).run .off
        (.start (.scripted false [answer]) 0 .asKept none)).2.wire.seen = enter :: look :: rest ∧
      look.headers.values "cookie" = ["id=2"] := by
  intro target config answer
  have accepted : target.IsTarget := ⟨"http://[::1]:8080/cenarius", rfl⟩
  have silent : ∀ entries, headerEntries [] config.header = .ok entries →
      ∀ entry ∈ entries, headerName? entry.1 ≠ some "cookie" := by
    intro entries read entry member
    rw [← Except.ok.inj read] at member
    cases member
  let handed : List HandedCookie := [
    ⟨"id", "1", true, by decide, by decide, by decide, by decide, by decide⟩,
    ⟨"id", "2", true, by decide, by decide, by decide, by decide, by decide⟩,
    ⟨"id", "3", false, by decide, by decide, by decide, by decide, by decide⟩]
  let login := Url.onLoopback ["cenarius", "api", "v1", "user", "login"]
  let response : Response := ⟨401, [("Set-Cookie", "id=1; Path=/"), ("set-cookie", "id=2; Path=/"),
    ("Set-Cookie", "id=3")], some (.ok [0x68, 0x69])⟩
  let client : Client := ⟨[], none, .plain⟩
  have sets : response.values "set-cookie" = handed.map HandedCookie.text := by decide +kernel
  obtain ⟨health, enter, look, rest, shown, _, seen, _, _, _, distinct, values, cookie⟩ :=
    session_shows_cookies_for_whole_server accepted (.inr (by decide)) rfl rfl silent .session .off 0
      .asKept (show endpointUrl config.target "api/v1/user/login" = .ok login by decide +kernel) []
      (show client.IsFor .plain config from ⟨rfl, rfl⟩)
      (show client.receive answer = some (.ok response) from rfl) rfl (by decide +kernel) sets
  -- There is one name, and its last value for the whole server is the second one.
  have last (name : String) : HandedCookie.lastValue? handed name = if name = "id" then some "2" else none := by
    by_cases same : name = "id"
    · subst same
      rfl
    · simp [HandedCookie.lastValue?, handed, same, Ne.symm same]
  have one : shown = [("id", "2")] := by
    apply List.perm_singleton.mp
    apply (List.perm_ext_iff_of_nodup (List.Nodup.of_map _ distinct) (List.nodup_singleton _)).mpr
    rintro ⟨name, value⟩
    rw [values name value, last]
    simp [eq_comm]
  rw [one] at cookie
  exact ⟨accepted, enter, look, rest, seen, cookie⟩

end AccessProbe
