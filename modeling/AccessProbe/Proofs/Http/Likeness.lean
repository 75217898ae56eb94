import Mathlib.Data.List.Forall2
import AccessProbe.Http.Client

/-! Two runs whose requests are related, up to what no server and no redirect can tell apart. -/

namespace AccessProbe

/-- A relation between requests that jars, redirects and responses preserve. -/
structure Likeness where
  /-- The relation between requests before the jar adds cookies. -/
  hops : Hop → Hop → Prop
  /-- The relation between requests as servers see them. -/
  requests : Request → Request → Prop
  /-- The relation between jars. -/
  jars : Jar → Jar → Prop
  /-- Related requests have the same URL. -/
  url : ∀ {hop other : Hop}, hops hop other → hop.url = other.url
  /-- Adding cookies of related jars keeps requests related. -/
  request : ∀ {hop other : Hop} {jar otherJar : Jar}, hops hop other → jars jar otherJar →
    requests (hop.request jar) (other.request otherJar)
  /-- Redirects keep requests related. -/
  redirected : ∀ {hop other : Hop} (status : Nat) (url : Url), hops hop other →
    hops (hop.redirected status url) (other.redirected status url)
  /-- The cookies of a response keep jars related. -/
  insertAll : ∀ {jar otherJar : Jar} (url : Url) (fields : List String), jars jar otherJar →
    jars (jar.insertAll url fields) (otherJar.insertAll url fields)

namespace Client

/-- Clients that differ in their default headers only. -/
structure Agrees (client other : Client) : Prop where
  timeLimit : client.timeLimit = other.timeLimit
  library : client.library = other.library

namespace Agrees

variable {client other : Client}

theorem refl (client : Client) : client.Agrees client := ⟨rfl, rfl⟩

/-- Such clients make the same of an answer. -/
theorem receive (agree : client.Agrees other) (answer : Answer) : client.receive answer = other.receive answer := by
  -- Default headers play no part in reading an answer.
  obtain ⟨defaults, timeLimit, library⟩ := client
  obtain ⟨otherDefaults, _, _⟩ := other
  obtain ⟨rfl, rfl⟩ := agree
  rfl

/-- They read the same reply from the same response. -/
theorem conclude (agree : client.Agrees other) {call otherCall : Call} (url : call.url = otherCall.url)
    (outcome : Except SendFault (Url × Response)) :
    client.conclude call outcome = other.conclude otherCall outcome := by
  -- As for `receive`.
  obtain ⟨defaults, timeLimit, library⟩ := client
  obtain ⟨otherDefaults, _, _⟩ := other
  obtain ⟨rfl, rfl⟩ := agree
  -- An error contains the URL of the first request.
  cases outcome with
  | ok arrival => rfl
  | error fault => simp only [Client.conclude, url]

end Agrees

end Client

namespace Wire

variable {wire : Wire} {client : Client} {hop next : Hop} {outcome : Option (Except SendFault (Url × Response))}

/-- A request without a redirect is the last one. -/
theorem follow_settled (ends : (wire.leg client hop).1 = .settled outcome) (left : Nat) :
    wire.follow client hop left = (outcome, (wire.leg client hop).2) := by
  -- The number of redirects left plays no part.
  have whole : wire.leg client hop = (.settled outcome, (wire.leg client hop).2) := Prod.ext ends rfl
  cases left with
  | zero => rw [follow, whole]
  | succ left => rw [follow, whole]

/-- A redirect beyond the limit is an error. -/
theorem follow_zero (goes : (wire.leg client hop).1 = .redirected next) :
    wire.follow client hop 0 = (some (.error .tooManyRedirects), (wire.leg client hop).2) := by
  have whole : wire.leg client hop = (.redirected next, (wire.leg client hop).2) := Prod.ext goes rfl
  rw [follow, whole]

/-- A redirect within the limit is followed if its scheme is http or https. -/
theorem follow_succ (goes : (wire.leg client hop).1 = .redirected next) (left : Nat) :
    wire.follow client hop (left + 1) = if next.url.isWeb then (wire.leg client hop).2.follow client next left
      else (some (.error .foreignScheme), (wire.leg client hop).2) := by
  have whole : wire.leg client hop = (.redirected next, (wire.leg client hop).2) := Prod.ext goes rfl
  rw [follow, whole]

end Wire

namespace Likeness

variable {like : Likeness} {before otherBefore : List Request} {wire other : Wire} {hop otherHop : Hop}
  {client otherClient : Client}

/-- Two networks in the same state with related jars, where the requests seen since a start are related. -/
structure Wires (like : Likeness) (before otherBefore : List Request) (wire other : Wire) : Prop where
  network : wire.network = other.network
  jars : like.jars wire.jar other.jar
  /-- The requests seen since then are related one by one. -/
  seen : ∃ sent otherSent, wire.seen = before ++ sent ∧ other.seen = otherBefore ++ otherSent ∧
    List.Forall₂ like.requests sent otherSent

/-- Networks in the same state with related jars are so at the start. -/
theorem Wires.start (network : wire.network = other.network) (jars : like.jars wire.jar other.jar) :
    like.Wires wire.seen other.seen wire other :=
  ⟨network, jars, [], [], (List.append_nil _).symm, (List.append_nil _).symm, .nil⟩

/-- An exchange depends on nothing of a request but its scheme. -/
theorem exchange_eq (network : Network) {request otherRequest : Request}
    (scheme : request.url.scheme = otherRequest.url.scheme) :
    network.exchange request = network.exchange otherRequest := by
  cases network with
  | unreachable => simp only [Network.exchange, scheme]
  | scripted tunnels answers => simp only [Network.exchange, scheme]

/-- Related requests get the same response and keep the networks related. -/
theorem carry (agree : client.Agrees otherClient) (wires : like.Wires before otherBefore wire other)
    (hops : like.hops hop otherHop) :
    (wire.carry client hop).1 = (other.carry otherClient otherHop).1 ∧
      like.Wires before otherBefore (wire.carry client hop).2 (other.carry otherClient otherHop).2 := by
  -- The network does not tell related requests apart, and the jars store the same cookies.
  obtain ⟨network, jar, seen⟩ := wire
  obtain ⟨otherNetwork, otherJar, otherSeen⟩ := other
  obtain ⟨rfl, jars, sent, otherSent, rfl, rfl, alike⟩ := wires
  have requests := like.request hops jars
  have url := like.url hops
  -- Both requests have the same URL, hence the same exchange.
  have same : network.exchange (hop.request jar) = network.exchange (otherHop.request otherJar) := by
    apply exchange_eq
    show hop.url.withoutUser.scheme = otherHop.url.withoutUser.scheme
    rw [url]
  refine ⟨?_, congrArg Exchange.network same, ?_, ?_⟩
  · simp only [Wire.carry, same, agree.receive]
  · -- The cookies of the response go into both jars.
    simp only [Wire.carry, same, url, agree.receive]
    split
    · exact like.insertAll _ _ jars
    · exact jars
  · simp only [Wire.carry, same]
    split
    · exact ⟨sent ++ [hop.request jar], otherSent ++ [otherHop.request otherJar],
        List.append_assoc .., List.append_assoc .., List.rel_append alike (.cons requests .nil)⟩
    · exact ⟨sent, otherSent, by simp, by simp, alike⟩

/-- Related requests are both the last ones of their chains, or are redirected to related ones. -/
theorem leg (agree : client.Agrees otherClient) (wires : like.Wires before otherBefore wire other)
    (hops : like.hops hop otherHop) :
    like.Wires before otherBefore (wire.leg client hop).2 (other.leg otherClient otherHop).2 ∧
      ((∃ outcome, (wire.leg client hop).1 = .settled outcome ∧
          (other.leg otherClient otherHop).1 = .settled outcome) ∨
        ∃ next otherNext, (wire.leg client hop).1 = .redirected next ∧
          (other.leg otherClient otherHop).1 = .redirected otherNext ∧ like.hops next otherNext) := by
  -- Both get the same response.
  obtain ⟨same, after⟩ := carry agree wires hops
  have url := like.url hops
  -- What follows depends on the response and the URL only.
  match answer : (wire.carry client hop).1 with
  | none =>
    simp only [Wire.leg, ← same, answer]
    exact ⟨after, .inl ⟨_, rfl, rfl⟩⟩
  | some (.error cause) =>
    simp only [Wire.leg, ← same, answer]
    exact ⟨after, .inl ⟨_, rfl, rfl⟩⟩
  | some (.ok response) =>
    cases place : Hop.location? hop.url response with
    | none =>
      simp only [Wire.leg, ← same, answer, ← url, place]
      exact ⟨after, .inl ⟨_, rfl, rfl⟩⟩
    | some elsewhere =>
      simp only [Wire.leg, ← same, answer, ← url, place]
      exact ⟨after, .inr ⟨_, _, rfl, rfl, like.redirected response.status elsewhere hops⟩⟩

/-- Related requests lead to the same result through related redirects. -/
theorem follow (agree : client.Agrees otherClient) (left : Nat)
    (wires : like.Wires before otherBefore wire other) (hops : like.hops hop otherHop) :
    (wire.follow client hop left).1 = (other.follow otherClient otherHop left).1 ∧
      like.Wires before otherBefore (wire.follow client hop left).2
        (other.follow otherClient otherHop left).2 := by
  -- Induction on the number of redirects left, where each one leads from related requests to related ones.
  induction left generalizing wire other hop otherHop with
  | zero =>
    obtain ⟨after, ⟨outcome, ends, otherEnds⟩ | ⟨next, otherNext, goes, otherGoes, _⟩⟩ := leg agree wires hops
    · rw [Wire.follow_settled ends, Wire.follow_settled otherEnds]
      exact ⟨rfl, after⟩
    · rw [Wire.follow_zero goes, Wire.follow_zero otherGoes]
      exact ⟨rfl, after⟩
  | succ left ih =>
    obtain ⟨after, ⟨outcome, ends, otherEnds⟩ | ⟨next, otherNext, goes, otherGoes, nexts⟩⟩ :=
      leg agree wires hops
    · rw [Wire.follow_settled ends, Wire.follow_settled otherEnds]
      exact ⟨rfl, after⟩
    · rw [Wire.follow_succ goes, Wire.follow_succ otherGoes, like.url nexts]
      -- Both are redirected to the same URL.
      split
      · exact ih after nexts
      · exact ⟨rfl, after⟩

/-- Related calls get the same reply. -/
theorem send {call otherCall : Call} (agree : client.Agrees otherClient)
    (wires : like.Wires before otherBefore wire other)
    (calls : like.hops (client.first call) (otherClient.first otherCall)) :
    (wire.send client call).1 = (other.send otherClient otherCall).1 ∧
      like.Wires before otherBefore (wire.send client call).2 (other.send otherClient otherCall).2 := by
  -- The reply is read from the result of the chain, which is the same.
  obtain ⟨same, after⟩ := follow agree redirectLimit wires calls
  have concluded : client.conclude call = otherClient.conclude otherCall :=
    funext (agree.conclude (like.url calls))
  refine ⟨?_, after⟩
  simp only [Wire.send, same, concluded]

/-- Equality as a relation between requests. -/
def same : Likeness where
  hops := Eq
  requests := Eq
  jars := Eq
  url := congrArg Hop.url
  request := fun hops jars => by rw [hops, jars]
  redirected := fun _ _ hops => by rw [hops]
  insertAll := fun _ _ jars => by rw [jars]

end Likeness

end AccessProbe
