import Mathlib.Data.List.Chain
import Mathlib.Data.List.Forall2
import AccessProbe.Http.Client

/-! The requests that a scripted server receives for one request of the program and its redirects, with the outcome of the last of them. -/

namespace AccessProbe

/-- A request that a server has received, with the answer it gives. -/
structure Sighting where
  /-- The request before the cookies of the jar are added. -/
  hop : Hop
  /-- The jar when the request was sent. -/
  jar : Jar
  /-- The answer of the server. -/
  answer : Answer

namespace Sighting

/-- The request as sent, with its cookies. -/
def request (sighting : Sighting) : Request := sighting.hop.request sighting.jar

/-- The first request was redirected, and the second one is sent to the URL of that redirect. -/
def LeadsTo (client : Client) (first second : Sighting) : Prop :=
  ∃ response url, client.receive first.answer = some (.ok response) ∧
    response.status ∈ Hop.redirectStatuses ∧ Hop.location? first.hop.url response = some url ∧
    second.hop = first.hop.redirected response.status url

end Sighting

/-- Whether requests to a URL reach the scripted server: https URLs only through a tunnel. -/
def Reached (tunnels : Bool) (url : Url) : Prop := tunnels = true ∨ url.scheme ≠ "https"

instance (tunnels : Bool) (url : Url) : Decidable (Reached tunnels url) := inferInstanceAs (Decidable (_ ∨ _))

/-- The server has received these requests, in this order, and has taken one answer of its script for each of
them. -/
structure Wire.Sees (wire : Wire) (tunnels : Bool) (answers : List Answer) (sightings : List Sighting)
    (later : Wire) : Prop where
  /-- The requests come after those received before. -/
  seen : later.seen = wire.seen ++ sightings.map Sighting.request
  /-- One answer is taken from the script per request. -/
  network : later.network = .scripted tunnels (answers.drop sightings.length)
  /-- The answers are given in the order of the script. -/
  answered : sightings.map Sighting.answer =
    (List.range sightings.length).map fun turn => answers.getD turn .none

/-- The requests sent for one request of the program, redirects included. -/
structure Trail (client : Client) (call : Call) (sightings : List Sighting) : Prop where
  /-- The first one is the request that the program made. -/
  starts : (sightings.head?).map Sighting.hop = some (client.first call)
  /-- Each of the others follows a redirect of the one before it. -/
  linked : sightings.IsChain (Sighting.LeadsTo client)
  /-- At most `redirectLimit` redirects are followed. -/
  limited : sightings.length ≤ redirectLimit + 1

/-- The outcome of a chain of redirects, read off the last request that a server received of it. -/
inductive Sighting.Ends (client : Client) (tunnels : Bool) (full : Prop) (last : Sighting) :
    Option (Except SendFault (Url × Response)) → Prop where
  /-- Its answer is a response that is not redirected. -/
  | answered {response : Response} (received : client.receive last.answer = some (.ok response))
    (final : Hop.location? last.hop.url response = none) :
    Ends client tunnels full last (some (.ok (last.hop.url, response)))
  /-- Its answer is an error. -/
  | failed {cause : ExchangeError} (received : client.receive last.answer = some (.error cause)) :
    Ends client tunnels full last (some (.error (.exchange cause)))
  /-- Its answer never arrives. -/
  | waiting (received : client.receive last.answer = none) : Ends client tunnels full last none
  /-- It is redirected, and the limit of redirects is reached. -/
  | tooMany {next : Sighting} (leads : last.LeadsTo client next) (all : full) :
    Ends client tunnels full last (some (.error .tooManyRedirects))
  /-- It is redirected to a URL whose scheme is neither http nor https. -/
  | foreign {next : Sighting} (leads : last.LeadsTo client next) (outside : next.hop.url.isWeb = false) :
    Ends client tunnels full last (some (.error .foreignScheme))
  /-- It is redirected to an https URL, whose tunnel is refused. -/
  | refused {next : Sighting} (leads : last.LeadsTo client next) (unreached : ¬ Reached tunnels next.hop.url) :
    Ends client tunnels full last (some (.error (.exchange .tunnelRefused)))

/-- The last of these requests explains the outcome of a chain with this limit of redirects. -/
def EndsAt (client : Client) (tunnels : Bool) (limit : Nat) (sightings : List Sighting)
    (outcome : Option (Except SendFault (Url × Response))) : Prop :=
  ∃ last, sightings.getLast? = some last ∧ last.Ends client tunnels (sightings.length = limit + 1) outcome

/-- The outcome of a request of the program, explained by the requests that servers receive. -/
inductive Wire.Delivers (wire : Wire) (client : Client) (call : Call) :
    Option (Except SendFault (Url × Response)) → Wire → Prop where
  /-- The connection can't be made. -/
  | unreachable (nowhere : wire.network = .unreachable) :
    Delivers wire client call (some (.error (.exchange (.unreachable (call.url.scheme = "https"))))) wire
  /-- The tunnel to the server is refused, and the server receives nothing. -/
  | refused {tunnels : Bool} {answers : List Answer} (scripted : wire.network = .scripted tunnels answers)
    (unreached : ¬ Reached tunnels call.url) :
    Delivers wire client call (some (.error (.exchange .tunnelRefused))) wire
  /-- The server receives the request and those for the redirects that are followed. -/
  | seen {tunnels : Bool} {answers : List Answer} {sightings : List Sighting}
    {outcome : Option (Except SendFault (Url × Response))} {later : Wire}
    (scripted : wire.network = .scripted tunnels answers) (reached : Reached tunnels call.url)
    (trail : Trail client call sightings) (sees : wire.Sees tunnels answers sightings later)
    (ends : EndsAt client tunnels redirectLimit sightings outcome) : Delivers wire client call outcome later

/-- The outcome of a request between client and server, with the reply that the program reads from it. -/
structure Wire.Brings (wire : Wire) (client : Client) (call : Call)
    (outcome : Option (Except SendFault (Url × Response))) : Prop where
  /-- The requests that servers receive explain the outcome. -/
  delivered : wire.Delivers client call outcome (wire.send client call).2
  /-- The program gets the reply or the error of that outcome, or waits for ever. -/
  told : (wire.send client call).1 = outcome.map (client.conclude call)

namespace Wire

variable {wire middle later : Wire} {tunnels : Bool} {answers : List Answer} {client : Client}

theorem Sees.nil (scripted : wire.network = .scripted tunnels answers) : wire.Sees tunnels answers [] wire :=
  ⟨by simp, by simpa using scripted, rfl⟩

/-- Requests received one after another are received in all. -/
theorem Sees.append {first second : List Sighting} (before : wire.Sees tunnels answers first middle)
    (after : middle.Sees tunnels (answers.drop first.length) second later) :
    wire.Sees tunnels answers (first ++ second) later := by
  -- Requests and answers are appended, and the script is shortened twice.
  refine ⟨?_, ?_, ?_⟩
  · rw [after.seen, before.seen, List.map_append, List.append_assoc]
  · rw [after.network, List.drop_drop, List.length_append]
  · -- The second part numbers its answers from where the first part stopped.
    rw [List.map_append, before.answered, after.answered, List.length_append, List.range_add,
      List.map_append, List.map_map]
    congr 1
    apply List.map_congr_left
    intro turn _
    simp [List.getD_eq_getElem?_getD, List.getElem?_drop]

/-- A request whose tunnel is refused changes nothing. -/
theorem carry_unreached {hop : Hop} (scripted : wire.network = .scripted tunnels answers)
    (unreached : ¬ Reached tunnels hop.url) :
    wire.carry client hop = (some (.error .tunnelRefused), wire) := by
  -- The tunnel is refused before anything is taken from the script or put into the jar.
  obtain ⟨network, jar, seen⟩ := wire
  subst scripted
  obtain ⟨closed, secure⟩ := not_or.mp unreached
  simp [carry, Network.exchange, Hop.request, Url.withoutUser, not_not.mp secure, closed]

/-- A request as the server receives it next, with the next answer of the script. -/
def sighting (wire : Wire) (answers : List Answer) (hop : Hop) : Sighting :=
  ⟨hop, wire.jar, answers.headD .none⟩

/-- A request that reaches the server is received, and gets the next answer of the script. -/
theorem carry_reached (client : Client) {hop : Hop} (scripted : wire.network = .scripted tunnels answers)
    (reached : Reached tunnels hop.url) :
    (wire.carry client hop).1 = client.receive (answers.headD .none) ∧
      wire.Sees tunnels answers [wire.sighting answers hop] (wire.carry client hop).2 := by
  -- The tunnel test of `Network.exchange` passes, and the rest is its definition.
  obtain ⟨network, jar, seen⟩ := wire
  subst scripted
  have passes : ¬ (hop.url.scheme = "https" ∧ tunnels = false) := by
    rintro ⟨secure, closed⟩
    exact reached.elim (fun opened => by cases opened.symm.trans closed) fun plain => plain secure
  refine ⟨?_, ?_, ?_, ?_⟩
  · simp [carry, Network.exchange, Hop.request, Url.withoutUser, passes]
  · simp [carry, sighting, Network.exchange, Sighting.request, Hop.request, Url.withoutUser, passes]
  · simp [carry, Network.exchange, Hop.request, Url.withoutUser, passes]
  · cases answers <;> rfl

/-- The jar takes the cookies of a response. -/
theorem carry_jar_of_response {hop : Hop} {response : Response}
    (came : (wire.carry client hop).1 = some (.ok response)) :
    (wire.carry client hop).2.jar = wire.jar.insertAll hop.url (response.values "set-cookie") := by
  -- The jar after an exchange is a case split on its result.
  simp only [carry] at came ⊢
  rw [came]

/-- Without a response the jar stays as it is. -/
theorem carry_jar_of_no_response {hop : Hop}
    (missing : ∀ response, (wire.carry client hop).1 ≠ some (.ok response)) :
    (wire.carry client hop).2.jar = wire.jar := by
  -- With `missing` only the case without a response is left.
  simp only [carry] at missing ⊢

/-- A request that reaches the server either ends its chain or is redirected. -/
theorem leg_reached (client : Client) {hop : Hop} (scripted : wire.network = .scripted tunnels answers)
    (reached : Reached tunnels hop.url) :
    (∃ outcome, wire.leg client hop = (.settled outcome, (wire.carry client hop).2) ∧
      ∀ full, (wire.sighting answers hop).Ends client tunnels full outcome) ∨
    (∃ next, wire.leg client hop = (.redirected next, (wire.carry client hop).2) ∧
      ∀ second : Sighting, second.hop = next → (wire.sighting answers hop).LeadsTo client second) := by
  have given := (carry_reached client scripted reached).1
  -- Without a response the chain ends; with one it depends on whether the response is a redirect with a usable location.
  cases arrived : client.receive (answers.headD .none) with
  | none => exact .inl ⟨none, by simp only [leg, given, arrived], fun _ => .waiting arrived⟩
  | some ended =>
    cases ended with
    | error cause => exact .inl ⟨_, by simp only [leg, given, arrived], fun _ => .failed arrived⟩
    | ok response =>
      cases place : Hop.location? hop.url response with
      | none =>
        exact .inl ⟨some (.ok (hop.url, response)), by simp only [leg, given, arrived, place],
          fun _ => .answered arrived place⟩
      | some url =>
        refine .inr ⟨hop.redirected response.status url, by simp only [leg, given, arrived, place], ?_⟩
        -- A location is read from redirects only.
        have status : response.status ∈ Hop.redirectStatuses := by
          by_contra other
          simp [Hop.location?, other] at place
        exact fun _ goes => ⟨response, url, arrived, status, place, goes⟩

/-- A chain whose first tunnel is refused ends there, and no server receives anything. -/
theorem follow_unreached {hop : Hop} (scripted : wire.network = .scripted tunnels answers)
    (unreached : ¬ Reached tunnels hop.url) (left : Nat) :
    wire.follow client hop left = (some (.error (.exchange .tunnelRefused)), wire) := by
  -- The first request is the last one, however many redirects are left.
  have refused : wire.leg client hop = (.settled (some (.error (.exchange .tunnelRefused))), wire) := by
    simp [leg, carry_unreached scripted unreached]
  cases left <;> simp [follow, refused]

/-- A chain whose first request reaches the server is a trail from that request on, and the last request of it
explains the outcome. -/
theorem follow_reached (client : Client) (left : Nat) {hop : Hop}
    (scripted : wire.network = .scripted tunnels answers) (reached : Reached tunnels hop.url) :
    ∃ rest, wire.Sees tunnels answers (wire.sighting answers hop :: rest) (wire.follow client hop left).2 ∧
      (wire.sighting answers hop :: rest).IsChain (Sighting.LeadsTo client) ∧ rest.length ≤ left ∧
      EndsAt client tunnels left (wire.sighting answers hop :: rest) (wire.follow client hop left).1 := by
  -- Induction on the redirects that are left: each one adds one request after the first.
  induction left generalizing wire hop answers with
  | zero =>
    have sees := (carry_reached client scripted reached).2
    -- No redirect is followed any more, so this request is the last one in any case.
    obtain ⟨outcome, settled, ends⟩ | ⟨next, sentOn, leads⟩ := leg_reached client scripted reached
    · exact ⟨[], by simpa only [follow, settled] using sees, .singleton _, Nat.le_refl _,
        by simpa only [follow, settled] using ⟨_, rfl, ends _⟩⟩
    · have leads : (wire.sighting answers hop).LeadsTo client ⟨next, wire.jar, .none⟩ := leads _ rfl
      exact ⟨[], by simpa only [follow, sentOn] using sees, .singleton _, Nat.le_refl _,
        by simpa only [follow, sentOn] using ⟨_, rfl, .tooMany leads rfl⟩⟩
  | succ left ih =>
    have sees := (carry_reached client scripted reached).2
    obtain ⟨outcome, settled, ends⟩ | ⟨next, sentOn, leads⟩ := leg_reached client scripted reached
    · exact ⟨[], by simpa only [follow, settled] using sees, .singleton _, Nat.zero_le _,
        by simpa only [follow, settled] using ⟨_, rfl, ends _⟩⟩
    have leadsOn : (wire.sighting answers hop).LeadsTo client ⟨next, wire.jar, .none⟩ := leads _ rfl
    by_cases web : next.url.isWeb
    · have step : wire.follow client hop (left + 1) = (wire.carry client hop).2.follow client next left := by
        simp only [follow, sentOn, web, if_true]
      rw [step]
      have later : (wire.carry client hop).2.network = .scripted tunnels (answers.drop 1) := sees.network
      by_cases goesOn : Reached tunnels next.url
      · -- The rest of the chain takes its answers from where the script stands now, and ends as the whole chain does.
        obtain ⟨rest, seesRest, linked, limited, last, isLast, ends⟩ := ih later goesOn
        refine ⟨_ :: rest, sees.append seesRest, ?_, Nat.succ_le_succ limited, last, ?_, ?_⟩
        · exact List.isChain_cons_cons.mpr ⟨leads _ rfl, linked⟩
        · rw [List.getLast?_cons_cons]
          exact isLast
        · simpa using ends
      · -- A refused tunnel ends the chain with this request as the last one received.
        rw [follow_unreached later goesOn]
        exact ⟨[], sees, .singleton _, Nat.zero_le _, _, rfl, .refused leadsOn goesOn⟩
    · -- No request is made to a URL of another scheme.
      have step : wire.follow client hop (left + 1) =
          (some (.error .foreignScheme), (wire.carry client hop).2) := by
        simp [follow, sentOn, web]
      rw [step]
      exact ⟨[], sees, .singleton _, Nat.zero_le _, _, rfl, .foreign leadsOn (Bool.eq_false_iff.mpr web)⟩

/-- Without a connection the first request of a chain fails, and nothing changes. -/
theorem follow_unreachable (nowhere : wire.network = .unreachable) (hop : Hop) (left : Nat) :
    wire.follow client hop left =
      (some (.error (.exchange (.unreachable (hop.url.scheme = "https")))), wire) := by
  -- The first request ends the chain, however many redirects are left.
  obtain ⟨network, jar, seen⟩ := wire
  subst nowhere
  have broken : (Wire.mk .unreachable jar seen).leg client hop =
      (.settled (some (.error (.exchange (.unreachable (hop.url.scheme = "https"))))),
        ⟨.unreachable, jar, seen⟩) := by
    simp only [leg, carry, Network.exchange, Hop.request, Url.withoutUser, Bool.false_eq_true, if_false,
      List.append_nil]
    rfl
  cases left <;> simp [follow, broken]

/-- Every request has such an outcome. -/
theorem exists_brings (wire : Wire) (client : Client) (call : Call) : ∃ outcome, wire.Brings client call outcome := by
  -- The outcome is that of the chain of the first request; it is classified by the network and by whether the
  -- URL is reached.
  refine ⟨(wire.follow client (client.first call) redirectLimit).1, ?_, rfl⟩
  show wire.Delivers client call _ (wire.follow client (client.first call) redirectLimit).2
  match network : wire.network with
  | .unreachable =>
    rw [follow_unreachable network]
    exact .unreachable network
  | .scripted tunnels answers =>
    by_cases reached : Reached tunnels call.url
    · -- The trail is the chain that starts with the request as the program made it.
      obtain ⟨rest, sees, linked, limited, ends⟩ :=
        follow_reached client redirectLimit network (show Reached tunnels (client.first call).url from reached)
      exact .seen network reached ⟨rfl, linked, Nat.succ_le_succ limited⟩ sees ends
    · rw [follow_unreached network (show ¬ Reached tunnels (client.first call).url from reached)]
      exact .refused network reached

/-- A request that reaches the server leaves a trail that explains its outcome. -/
theorem Delivers.of_reached {call : Call} {outcome : Option (Except SendFault (Url × Response))}
    (delivered : wire.Delivers client call outcome later)
    (scripted : wire.network = .scripted tunnels answers) (reached : Reached tunnels call.url) :
    ∃ sightings, Trail client call sightings ∧ wire.Sees tunnels answers sightings later ∧
      EndsAt client tunnels redirectLimit sightings outcome := by
  -- The other two ways contradict that the network is scripted or that the URL is reached.
  cases delivered with
  | unreachable nowhere => cases nowhere.symm.trans scripted
  | refused others unreached =>
    obtain ⟨rfl, rfl⟩ := Network.scripted.inj (others.symm.trans scripted)
    exact absurd reached unreached
  | seen others _ trail sees ends =>
    obtain ⟨rfl, rfl⟩ := Network.scripted.inj (others.symm.trans scripted)
    exact ⟨_, trail, sees, ends⟩

/-- A request that reaches the server leaves a trail. -/
theorem send_reached (client : Client) {call : Call} (scripted : wire.network = .scripted tunnels answers)
    (reached : Reached tunnels call.url) :
    ∃ sightings, Trail client call sightings ∧
      wire.Sees tunnels answers sightings (wire.send client call).2 := by
  -- A trail is part of every explanation of its outcome.
  obtain ⟨outcome, delivered, _⟩ := wire.exists_brings client call
  exact delivered.of_reached scripted reached |>.imp fun _ ⟨trail, sees, _⟩ => ⟨trail, sees⟩

/-- A request whose tunnel is refused fails with that error, and no server receives it. -/
theorem send_unreached (client : Client) {call : Call} (scripted : wire.network = .scripted tunnels answers)
    (unreached : ¬ Reached tunnels call.url) :
    wire.send client call = (some (.error ⟨call.url, .exchange .tunnelRefused⟩), wire) := by
  -- The first request of a chain goes to the URL that the program asked for.
  have first : ¬ Reached tunnels (client.first call).url := unreached
  simp [send, follow_unreached scripted first, Client.conclude]

/-- Sends requests one after another over one wire. -/
def sendAll (wire : Wire) : List (Client × Call) → List (Option (Except SendError Reply)) × Wire
  | [] => ([], wire)
  | (client, call) :: rest =>
    let (reply, middle) := wire.send client call
    let (replies, later) := middle.sendAll rest
    (reply :: replies, later)

/-- There is one result per request. -/
theorem length_sendAll (wire : Wire) (requests : List (Client × Call)) :
    (wire.sendAll requests).1.length = requests.length := by
  induction requests generalizing wire with
  | nil => rfl
  | cons request rest ih => exact congrArg Nat.succ (ih _)

/-- Requests that reach the server leave one trail each, in their order and with nothing between them. -/
theorem sendAll_reached (requests : List (Client × Call)) (scripted : wire.network = .scripted tunnels answers)
    (reached : ∀ request ∈ requests, Reached tunnels request.2.url) :
    ∃ groups, List.Forall₂ (fun request group => Trail request.1 request.2 group) requests groups ∧
      wire.Sees tunnels answers groups.flatten (wire.sendAll requests).2 := by
  -- Induction on the requests: each one takes its answers from where the one before it has left the script.
  induction requests generalizing wire answers with
  | nil => exact ⟨[], .nil, .nil scripted⟩
  | cons request rest ih =>
    obtain ⟨client, call⟩ := request
    obtain ⟨group, trail, sees⟩ := send_reached client scripted (reached (client, call) (by simp))
    obtain ⟨groups, trails, seesRest⟩ :=
      ih sees.network fun request member => reached request (by simp [member])
    exact ⟨group :: groups, .cons trail trails, sees.append seesRest⟩

/-- Requests whose tunnels are refused leave the wire as it is. -/
theorem sendAll_unreached (requests : List (Client × Call))
    (scripted : wire.network = .scripted tunnels answers)
    (unreached : ∀ request ∈ requests, ¬ Reached tunnels request.2.url) :
    (wire.sendAll requests).2 = wire := by
  -- Induction on the requests, none of which changes the wire.
  induction requests with
  | nil => rfl
  | cons request rest ih =>
    obtain ⟨client, call⟩ := request
    have refused := send_unreached client scripted (unreached (client, call) (by simp))
    simp only [sendAll, refused]
    exact ih fun request member => unreached request (by simp [member])

end Wire

end AccessProbe
