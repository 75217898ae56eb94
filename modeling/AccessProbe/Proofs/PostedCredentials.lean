import AccessProbe.Proofs.CredentialReach
import AccessProbe.Proofs.Text.Json

/-! The body of POST requests: JSON that determines the login and the password. -/

namespace AccessProbe

namespace Credentials

/-- The body of a POST request with credentials. -/
def body (credentials : Credentials) : List UInt8 := Utf8.encode credentials.json

/-- The members of the JSON object in it. -/
def members (credentials : Credentials) : List (String × Json.Value) :=
  [("login", .string credentials.login), ("password", .string credentials.password)]

/-- A JSON reader finds the login and the password in the body. -/
theorem ofBytes?_body (credentials : Credentials) : Json.ofBytes? credentials.body =
    some (.object credentials.members) := by
  -- Decoding undoes the encoding, and reading undoes the writing of an object.
  rw [Json.ofBytes?, body, Utf8.decode?_encode, Option.bind_some, json_eq, Json.read?_object]
  rfl

/-- The body determines the credentials. -/
theorem body_inj {first second : Credentials} : first.body = second.body ↔ first = second := by
  refine ⟨fun same => ?_, congrArg body⟩
  -- A reader finds the credentials of both in the same body.
  have read := (ofBytes?_body first).symm.trans ((congrArg Json.ofBytes? same).trans (ofBytes?_body second))
  simp only [members, Option.some.injEq, Json.Value.object.injEq, List.cons.injEq, Prod.mk.injEq,
    Json.Value.string.injEq, true_and, and_true] at read
  cases first
  cases second
  rw [mk.injEq]
  exact read

end Credentials

namespace Probe

variable {probe : Probe} {verbosity : Verbosity} {work : Work} {url : Url}

/-- A request whose error ends the task is one request. -/
theorem requests_fetch {errand : Errand} (found : endpointUrl probe.target errand.path = .ok url) :
    (probe.fetch errand).requests verbosity work = [(probe.client, errand.call probe.credentials url)] := by
  -- It is the only step that sends.
  rw [Plan.requests, acts_fetch found]
  rfl

/-- The first request of a session posts the credentials. -/
theorem head?_requests_session (found : endpointUrl probe.target loginPath = .ok url) :
    (probe.session.requests verbosity work).head? = some (probe.client, ⟨url, some probe.credentials.body⟩) := by
  -- A session starts with its login.
  have login : (probe.fetch .login).requests verbosity work = [(probe.client, ⟨url, some probe.credentials.body⟩)] :=
    requests_fetch found
  rw [session, Plan.requests_bind, login]
  rfl

/-- A registration is one request, which posts the credentials. -/
theorem requests_register (found : endpointUrl probe.target registerPath = .ok url) :
    probe.register.requests verbosity work = [(probe.client, ⟨url, some probe.credentials.body⟩)] := by
  -- It is that request followed by a report.
  have registration : (probe.fetch .registration).requests verbosity work =
      [(probe.client, ⟨url, some probe.credentials.body⟩)] := requests_fetch found
  rw [register, Plan.requests_bind, registration]
  -- Reporting the response sends nothing.
  split
  · rw [(report_sends _).requests_eq_nil, List.append_nil]
  · rw [List.append_nil]

end Probe

/-- The request has the credentials as its JSON body, with no other length than that of the body. -/
structure Request.PostsCredentials (credentials : Credentials) (request : Request) : Prop where
  /-- The body is the JSON of the credentials. -/
  body : request.body = credentials.body
  /-- Its content type is JSON. -/
  type : request.headers.values "content-type" = ["application/json"]
  /-- A `content-length` counts its bytes. -/
  length : ∀ length ∈ request.headers.values "content-length", length = toString request.body.length

/-- The header file does not set this header. -/
def Configuration.LeavesOut (config : Configuration) (files : Files) (name : String) : Prop :=
  ∀ entries, headerEntries files config.header = .ok entries → ∀ entry ∈ entries, headerName? entry.1 ≠ some name

namespace Trail

variable {client : Client} {credentials : Credentials} {errand : Errand} {url : Url} {sightings : List Sighting}
  (trail : Trail client (errand.call credentials url) sightings)

include trail

/-- A trail with a POST request starts with the credentials of the configuration, and every POST request of it
has them as its body. -/
theorem content_eq_body : ∀ sighting ∈ sightings, sighting.request.method = .post →
    (errand.call credentials url).content = some credentials.body ∧ sighting.request.body = credentials.body := by
  -- A POST request after a redirect repeats the first one.
  intro sighting member method
  obtain ⟨before, after, rfl⟩ := List.append_of_mem member
  -- So the first request is a POST request as well, which a look at a path is not.
  obtain ⟨posted, repeated⟩ := trail.method_eq_post_iff.mp method
  refine ⟨?_, trail.holdsCredentials_iff.mpr ⟨posted, repeated⟩⟩
  cases errand with
  | login => rfl
  | registration => rfl
  | look path => cases posted

/-- Every POST request of a trail posts the credentials of the configuration. -/
theorem postsCredentials : ∀ sighting ∈ sightings, sighting.request.method = .post →
    sighting.request.PostsCredentials credentials := by
  -- Type and length are those of the body of the trail.
  intro sighting member method
  obtain ⟨posts, body⟩ := trail.content_eq_body sighting member method
  refine ⟨body, trail.contentType_eq posts sighting member method, ?_⟩
  rw [body]
  exact trail.contentLength_eq posts sighting member method

/-- It has a `content-length` if the default headers set no `transfer-encoding`. -/
theorem tellsLength (ordered : client.defaults.Ordered) (plain : client.defaults.get? "transfer-encoding" = none) :
    ∀ sighting ∈ sightings, sighting.request.method = .post →
      sighting.request.headers.values "content-length" = [toString sighting.request.body.length] := by
  -- The length is that of the body of the trail.
  intro sighting member method
  obtain ⟨posts, body⟩ := trail.content_eq_body sighting member method
  rw [body]
  exact trail.contentLength_eq_of_plain posts ordered plain sighting member method

end Trail

/-- A JSON reader finds the login and the password in the body, in this order and nothing else, whatever
characters they have, so the body determines the credentials. A session starts with a request that posts this
body, and a registration is one such request. Every POST request of a task has this body, also after a
redirect, and its `content-length`, which only a `transfer-encoding` in the header file can drop. -/
theorem posted_credentials_are_read_back (files : Files) (config : Configuration) (task : CommandLine.Task)
    (mode : Mode) (library : Library) (verbosity : Verbosity) {work : Work} {tunnels : Bool} {answers : List Answer}
    (scripted : work.wire.network = .scripted tunnels answers) :
    Json.ofBytes? config.credentials.body =
        some (.object [("login", .string config.login), ("password", .string config.password)]) ∧
      (∀ other : Credentials, other.body = config.credentials.body ↔ other = config.credentials) ∧
      (∀ (probe : Probe) (before : Work) (url : Url), probe.credentials = config.credentials →
        (endpointUrl probe.target loginPath = .ok url → (probe.session.requests verbosity before).head? =
          some (probe.client, ⟨url, some config.credentials.body⟩)) ∧
        (endpointUrl probe.target registerPath = .ok url → probe.register.requests verbosity before =
          [(probe.client, ⟨url, some config.credentials.body⟩)])) ∧
      ∃ sent, ((task.planIn mode library files config).run verbosity work).2.wire.seen = work.wire.seen ++ sent ∧
        ∀ request ∈ sent, request.method = .post → request.PostsCredentials config.credentials ∧
          (config.LeavesOut files "transfer-encoding" →
            request.headers.values "content-length" = [toString request.body.length]) := by
  -- The first three parts are about the credentials and the plans; the last one goes through the trails of
  -- the task.
  refine ⟨config.credentials.ofBytes?_body, fun other => Credentials.body_inj, fun probe before url same => ?_, ?_⟩
  · rw [← same]
    exact ⟨Probe.head?_requests_session, Probe.requests_register⟩
  obtain ⟨groups, trails, sees⟩ := (task.planIn_sendsOnly mode library files config).trails verbosity scripted
  refine ⟨groups.flatten.map Sighting.request, sees.seen, fun request seen method => ?_⟩
  -- Every request belongs to the trail of a request with the credentials of the configuration.
  obtain ⟨sighting, member, rfl⟩ := List.mem_map.mp seen
  obtain ⟨group, isGroup, inGroup⟩ := List.mem_flatten.mp member
  obtain ⟨client, call, ⟨built, errand, url, _, _, rfl⟩, trail⟩ := trails group isGroup
  refine ⟨trail.postsCredentials sighting inGroup method, fun silent => ?_⟩
  -- The program itself sets no `transfer-encoding`.
  obtain ⟨fields, ready, _, rfl⟩ := buildClient_eq_ok_iff.mp built
  obtain ⟨ordered, coding⟩ := get?_clientHeaders_of_undefined ready silent
  have plain : fields.get? "transfer-encoding" = none := by
    rw [coding]
    simp [standardValue?]
  exact trail.tellsLength ordered plain sighting inGroup method

/-- A registration with every kind of JSON escape in the login is posted twice if it is redirected with 307.
-/
theorem posted_credentials_with_escapes_are_read_back :
    let config : Configuration := ⟨Url.loopback, "a\"\\\n\u0001é😀", "\",\"login\":\"b", none, none, .off⟩
    let answers : List Answer := [⟨307, [("Location", "http://[::2]/")], [], none⟩]
    let work : Work := .start (.scripted false answers) 0 .asKept none
    let later := ((CommandLine.Task.planIn .register .none .plain [] config).run .off work).2.wire
    work.wire.network = .scripted false answers ∧ later.seen.map Request.method = [.post, .post] ∧
      ∀ request ∈ later.seen, Json.ofBytes? request.body = some (.object
        [("login", .string "a\"\\\n\u0001é😀"), ("password", .string "\",\"login\":\"b")]) := by
  intro config answers work later
  have scripted : work.wire.network = .scripted false answers := rfl
  have posted : later.seen.map Request.method = [.post, .post] := by decide +kernel
  obtain ⟨read, _, _, sent, seen, posts⟩ := posted_credentials_are_read_back [] config .register .none
    .plain .off scripted
  with_reducible refine ⟨scripted, posted, fun request member => ?_⟩
  have all : later.seen = sent := seen
  have method : request.method ∈ later.seen.map Request.method := List.mem_map_of_mem member
  rw [posted, List.mem_pair, or_self] at method
  rw [all] at member
  rw [(posts request member method).1.body]
  exact read

end AccessProbe
