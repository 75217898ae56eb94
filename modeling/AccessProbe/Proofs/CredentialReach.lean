import AccessProbe.Proofs.HeaderPrecedence

/-! Redirects carry the token header to any host, and those that repeat the request carry the credentials as well. -/

namespace AccessProbe

/-- The request has the token in its header. -/
def Request.ShowsToken (credentials : Credentials) (request : Request) : Prop :=
  credentials.token ∈ request.headers.values "x-cenarius-token"

/-- The body of the request is the JSON of the credentials. -/
def Request.HoldsCredentials (credentials : Credentials) (request : Request) : Prop :=
  request.body = Utf8.encode credentials.json

instance (credentials : Credentials) (request : Request) : Decidable (request.ShowsToken credentials) :=
  inferInstanceAs (Decidable (_ ∈ _))

instance (credentials : Credentials) (request : Request) : Decidable (request.HoldsCredentials credentials) :=
  inferInstanceAs (Decidable (_ = _))

/-- The response does not redirect to another server. -/
def Sighting.StaysOn (client : Client) (target : Url) (sighting : Sighting) : Prop :=
  ∀ next, sighting.LeadsTo client next → Hop.sameServer target next.hop.url

/-- An endpoint is on the server of its target. -/
theorem sameServer_of_endpointUrl {target url : Url} {path : String} (accepted : target.IsTarget)
    (plain : Url.isPlainPath path) (found : endpointUrl target path = .ok url) : Hop.sameServer target url := by
  -- The URL of an endpoint has scheme, host and port of the target.
  obtain ⟨parts, made⟩ := Url.endpointUrl_plain accepted plain
  rw [made] at found
  rw [← Except.ok.inj found]
  simp [Hop.sameServer, Url.knownPort?]

namespace Trail

variable {client : Client} {credentials : Credentials} {errand : Errand} {url : Url}
  {before after : List Sighting} {sighting : Sighting}

/-- A request of the trail has the credentials as its body exactly if the program made a POST request and
every response before it repeats the request. -/
theorem holdsCredentials_iff
    (trail : Trail client (errand.call credentials url) (before ++ sighting :: after)) :
    sighting.request.HoldsCredentials credentials ↔
      (errand.call credentials url).method = .post ∧ ∀ earlier ∈ before, earlier.Repeats client := by
  -- Every request of the trail has the body of the first one if it is a POST request, and none otherwise.
  have bears : sighting.hop.Bears ((errand.content credentials).getD []) :=
    trail.forall_hop (client.first_bears _) (fun _ status url bears => bears.redirected status url) sighting (by simp)
  rw [← trail.method_eq_post_iff]
  constructor
  · -- A GET request has an empty body, and the JSON of credentials is not empty.
    intro holds
    cases method : sighting.hop.method with
    | post => rfl
    | get =>
      have empty : sighting.hop.body = [] := bears.looking method
      exact absurd (holds.symm.trans empty) credentials.encode_json_ne_nil
  · -- A POST request still has the body that the first one had.
    intro method
    have first := (trail.method_eq_post_iff.mp method).1
    have body : sighting.hop.body = (errand.content credentials).getD [] := bears.posted method
    cases errand with
    | login => exact body
    | registration => exact body
    | look path => cases first

/-- As long as no response redirects to another server, requests stay on that of the first one. -/
theorem sameServer_of_staysOn {call : Call} {target : Url} (trail : Trail client call (before ++ sighting :: after))
    (starts : Hop.sameServer target call.url) (stays : ∀ earlier ∈ before, earlier.StaysOn client target) :
    Hop.sameServer target sighting.request.url :=
  trail.reaches (P := fun hop => Hop.sameServer target hop.url) starts
    fun earlier member next leads _ => stays earlier member next leads

end Trail

/-- The requests of a task are trails that start on the server of the target. If the header file defines no
token, all requests of all trails have the token header in token mode and none has it in the other modes, to
whatever host they go. A request has the credentials as its body if and only if its trail starts with a POST
request and every response before it repeats the request. As long as no response redirects to another server,
a trail stays on that of the target. -/
theorem credentials_follow_redirects {files : Files} {config : Configuration} (accepted : config.target.IsTarget)
    (undefined : ∀ entries, headerEntries files config.header = .ok entries →
      ∀ entry ∈ entries, headerName? entry.1 ≠ some "x-cenarius-token")
    (task : CommandLine.Task) (mode : Mode) (library : Library) (verbosity : Verbosity) {work : Work}
    {tunnels : Bool} {answers : List Answer} (scripted : work.wire.network = .scripted tunnels answers) :
    ∃ groups : List (List Sighting),
      work.wire.Sees tunnels answers groups.flatten
        ((task.planIn mode library files config).run verbosity work).2.wire ∧
      ∀ group ∈ groups, ∃ client call, Trail client call group ∧ Hop.sameServer config.target call.url ∧
        ∀ before sighting after, group = before ++ sighting :: after →
          (sighting.request.ShowsToken config.credentials ↔ task.modeIn mode = .token) ∧
          (sighting.request.HoldsCredentials config.credentials ↔
            call.method = .post ∧ ∀ earlier ∈ before, earlier.Repeats client) ∧
          ((∀ earlier ∈ before, earlier.StaysOn client config.target) →
            Hop.sameServer config.target sighting.request.url) := by
  -- The task sends requests of its own client to endpoints only, so each of them leaves a trail.
  obtain ⟨groups, trails, sees⟩ := (task.planIn_sendsOnly mode library files config).trails verbosity scripted
  refine ⟨groups, sees, fun group isGroup => ?_⟩
  -- Each trail starts with a request to an endpoint of the target.
  obtain ⟨client, call, ⟨built, errand, url, plain, found, rfl⟩, trail⟩ := trails group isGroup
  obtain ⟨fields, ready, _, rfl⟩ := buildClient_eq_ok_iff.mp built
  have starts : Hop.sameServer config.target url := sameServer_of_endpointUrl accepted plain found
  refine ⟨_, errand.call config.credentials url, trail, starts, ?_⟩
  rintro before sighting after rfl
  obtain ⟨ordered, shown⟩ := get?_clientHeaders_of_undefined ready undefined
  have values := trail.values_eq ordered (show "x-cenarius-token" ∉ Client.ownNames by decide) sighting (by simp)
  refine ⟨?_, trail.holdsCredentials_iff, trail.sameServer_of_staysOn starts⟩
  -- The client does not set this header by itself, so every request of the trail has it as the default headers do.
  rw [Request.ShowsToken, values, shown]
  by_cases wanted : task.modeIn mode = .token
  · simp [standardValue?, wanted]
  · simp [standardValue?, wanted]

/-- The assumptions hold for a registration that is redirected to another host, and both requests have the
token. -/
theorem credentials_follow_repeated_registration :
    let config : Configuration := ⟨Url.loopback, "agent", "secret", none, none, .off⟩
    let answers : List Answer := [⟨307, [("Location", "http://[::2]/")], [], none⟩]
    let work : Work := .start (.scripted false answers) 0 .asKept none
    let later := ((CommandLine.Task.planIn .register .token .plain [] config).run .off work).2.wire
    config.target.IsTarget ∧ headerEntries [] config.header = .ok [] ∧ later.seen.length = 2 ∧
      (∀ request ∈ later.seen, request.ShowsToken config.credentials) := by
  intro config answers work later
  have silent : ∀ entries, headerEntries [] config.header = .ok entries →
      ∀ entry ∈ entries, headerName? entry.1 ≠ some "x-cenarius-token" := by
    intro entries read entry member
    rw [← Except.ok.inj read] at member
    cases member
  have two : later.seen.length = 2 := by decide +kernel
  obtain ⟨groups, sees, reach⟩ := credentials_follow_redirects Url.loopback_isTarget silent .register .token
    .plain .off (show work.wire.network = .scripted false answers from rfl)
  with_reducible refine ⟨Url.loopback_isTarget, rfl, two, ?_⟩
  intro request seen
  -- Every request received belongs to a trail.
  rw [show later.seen = [] ++ groups.flatten.map Sighting.request from sees.seen] at seen
  obtain ⟨sighting, member, rfl⟩ := List.mem_map.mp seen
  obtain ⟨group, isGroup, inGroup⟩ := List.mem_flatten.mp member
  obtain ⟨client, call, _, _, each⟩ := reach group isGroup
  obtain ⟨before, after, parts⟩ := List.append_of_mem inGroup
  exact (each before sighting after parts).1.mpr rfl

/-- One redirect takes the token to another host, and one that repeats a registration takes the credentials
there. -/
theorem credentials_leave_server :
    let config : Configuration := ⟨Url.loopback, "agent", "secret", none, none, .off⟩
    let sent (task : CommandLine.Task) (mode : Mode) (status : Nat) : List Request :=
      ((task.planIn mode .plain [] config).run .off
        (.start (.scripted false [⟨status, [("Location", "http://[::2]/")], [], none⟩]) 0 .asKept none)).2.wire.seen
    headerEntries [] config.header = .ok [] ∧
      (∃ request ∈ sent (.list .creditCard) .token 302, request.ShowsToken config.credentials ∧
        ¬ Hop.sameServer config.target request.url) ∧
      ∃ request ∈ sent .register .none 307, request.HoldsCredentials config.credentials ∧
        ¬ Hop.sameServer config.target request.url := by
  decide +kernel

end AccessProbe
