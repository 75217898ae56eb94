import AccessProbe.Proofs.Http.Likeness
import AccessProbe.Proofs.Http.Trail

/-! Scripts that differ in ordinary status codes only bring the same requests, and replies that differ in them only. -/

namespace AccessProbe

namespace Status

/-- A status code whose response has a body and is no redirect. -/
def isOrdinary (status : Nat) : Bool :=
  200 ≤ status && status ≤ 599 && status ≠ 204 && status ≠ 304 && !Hop.redirectStatuses.contains status

/-- Equal status codes, or two ordinary ones. -/
def Alike (status other : Nat) : Prop := status = other ∨ isOrdinary status ∧ isOrdinary other

end Status

/-- Two results: related values, or the same error. -/
inductive ResultAlike {ε α β : Type} (alike : α → β → Prop) : Except ε α → Except ε β → Prop where
  /-- Both are values. -/
  | ok {value : α} {other : β} (values : alike value other) : ResultAlike alike (.ok value) (.ok other)
  /-- Both are the same error. -/
  | error (cause : ε) : ResultAlike alike (.error cause) (.error cause)

/-- Two answers of a server that are equal up to ordinary status codes. -/
structure Answer.SameButStatus (answer other : Answer) : Prop where
  status : Status.Alike answer.status other.status
  headers : answer.headers = other.headers
  body : answer.body = other.body
  fault : answer.fault = other.fault

/-- Two responses that are equal up to ordinary status codes. -/
structure Response.SameButStatus (response other : Response) : Prop where
  status : Status.Alike response.status other.status
  headers : response.headers = other.headers
  /-- The body, or the error of reading it, is the same. -/
  body : response.body = other.body

/-- Two replies that are equal up to ordinary status codes. -/
structure Reply.SameButStatus (reply other : Reply) : Prop where
  status : Status.Alike reply.status other.status
  cookies : reply.cookies = other.cookies
  /-- The text of the body, or the error of reading it, is the same. -/
  text : reply.text = other.text

theorem Answer.SameButStatus.refl (answer : Answer) : answer.SameButStatus answer := ⟨.inl rfl, rfl, rfl, rfl⟩

theorem Response.SameButStatus.refl (response : Response) : response.SameButStatus response :=
  ⟨.inl rfl, rfl, rfl⟩

/-- An ordinary status code has no influence on the body that the client reads. -/
theorem Client.content_eq (client : Client) {answer other : Answer} (same : answer.SameButStatus other) :
    client.content answer = client.content other := by
  -- The status code matters only where it forbids a body, which no ordinary one does.
  have bare : [101, 204, 304].contains answer.status = [101, 204, 304].contains other.status := by
    rcases same.status with equal | ⟨ordinary, otherOrdinary⟩
    · rw [equal]
    · have filled {status : Nat} (ordinary : Status.isOrdinary status) :
          [101, 204, 304].contains status = false := by
        simp only [Status.isOrdinary, Bool.and_eq_true, decide_eq_true_eq] at ordinary
        have final : status ≠ 101 := by omega
        simp [final, ordinary.1.1.2, ordinary.1.2]
      rw [filled ordinary, filled otherOrdinary]
  simp only [content, bare, same.fault, same.body]

/-- Answers that are equal up to ordinary status codes give responses that are, or the same failure. -/
theorem Client.receive_alike (client : Client) {answer other : Answer} (same : answer.SameButStatus other) :
    Option.Rel (ResultAlike Response.SameButStatus) (client.receive answer) (client.receive other) := by
  rcases same.status with equal | ⟨ordinary, otherOrdinary⟩
  · -- With equal status codes the two answers are equal.
    obtain ⟨status, headers, body, fault⟩ := answer
    obtain ⟨otherStatus, otherHeaders, otherBody, otherFault⟩ := other
    obtain ⟨_, rfl, rfl, rfl⟩ := same
    obtain rfl : status = otherStatus := equal
    cases client.receive ⟨status, headers, body, fault⟩ with
    | none => exact .none
    | some received =>
      cases received with
      | error cause => exact .some (.error cause)
      | ok response => exact .some (.ok (.refl response))
  · -- An ordinary status code is not an interim one and has three digits, so both answers are responses.
    have plain {answer : Answer} (ordinary : Status.isOrdinary answer.status) :
        answer.isInterim = false ∧ (100 ≤ answer.status && answer.status < 1000) = true := by
      simp only [Status.isOrdinary, Bool.and_eq_true, decide_eq_true_eq] at ordinary
      have range : ¬ answer.status < 200 ∧ 100 ≤ answer.status ∧ answer.status < 1000 := by omega
      simp [Answer.isInterim, range.1, range.2]
    obtain ⟨last, digits⟩ := plain ordinary
    obtain ⟨otherLast, otherDigits⟩ := plain otherOrdinary
    simp only [receive, lastAnswer, receiveLast, last, otherLast, Bool.false_eq_true, if_false, digits,
      otherDigits, if_true, same.fault, client.content_eq same]
    -- The fault decides whether a response arrives, and it is the same in both answers.
    have response : ResultAlike (ε := ExchangeError) Response.SameButStatus
        (.ok ⟨answer.status, answer.headers, client.content other⟩)
        (.ok ⟨other.status, other.headers, client.content other⟩) := .ok ⟨same.status, same.headers, rfl⟩
    cases other.fault with
    | none => exact .some response
    | some fault =>
      cases fault with
      | close => exact .some (.error _)
      | garbage => exact .some (.error _)
      | truncate => exact .some response
      | hang =>
        cases limit : client.timeLimit with
        | none => simp only [expiry, limit]; exact .none
        | some time => simp only [expiry, limit]; exact .some (.error _)
      | hangBody => exact .some response

/-- Responses that are equal up to ordinary status codes redirect to the same URL with the same status code,
or neither is a redirect. -/
theorem Response.SameButStatus.location {response other : Response} (same : response.SameButStatus other)
    (url : Url) : Hop.location? url response = none ∧ Hop.location? url other = none ∨
      ∃ place, Hop.location? url response = some place ∧ Hop.location? url other = some place ∧
        response.status = other.status := by
  rcases same.status with equal | ⟨ordinary, otherOrdinary⟩
  · have one : Hop.location? url other = Hop.location? url response := by
      simp only [Hop.location?, Response.values, equal, same.headers]
    cases place : Hop.location? url response with
    | none => exact .inl ⟨rfl, one.trans place⟩
    | some found => exact .inr ⟨found, rfl, one.trans place, equal⟩
  · -- An ordinary status code is no redirect.
    have nowhere {status : Nat} (ordinary : Status.isOrdinary status) :
        Hop.redirectStatuses.contains status = false := by
      simp only [Status.isOrdinary, Bool.and_eq_true, Bool.not_eq_true'] at ordinary
      exact ordinary.2
    have here : Hop.location? url response = none := by simp only [Hop.location?, nowhere ordinary]; rfl
    have there : Hop.location? url other = none := by simp only [Hop.location?, nowhere otherOrdinary]; rfl
    exact .inl ⟨here, there⟩

/-- The replies read from two such responses are equal up to ordinary status codes too. -/
theorem Response.SameButStatus.reply {response other : Response} (same : response.SameButStatus other)
    (client : Client) (url : Url) : (client.reply url response).SameButStatus (client.reply url other) := by
  -- Cookies are read from the header fields and the text from the header fields and the body, never from the
  -- status code.
  refine ⟨same.status, ?_, ?_⟩
  · simp only [Client.reply, Response.values, same.headers]
  · simp only [Client.reply, Response.values, same.headers, same.body]

namespace Wire

/-- Two wires that have taken equally many answers from their scripts, with equal jars and equal requests so
far. -/
structure Abreast (tunnels : Bool) (answers others : List Answer) (used : Nat) (wire other : Wire) : Prop where
  /-- The first wire has taken this many answers. -/
  network : wire.network = .scripted tunnels (answers.drop used)
  /-- The second one has taken as many. -/
  otherNetwork : other.network = .scripted tunnels (others.drop used)
  jar : wire.jar = other.jar
  seen : wire.seen = other.seen

namespace Abreast

variable {tunnels : Bool} {answers others : List Answer} {used : Nat} {wire other : Wire}

/-- The next answers of such scripts are equal up to ordinary status codes, also when both scripts are used
up. -/
theorem head (scripts : List.Forall₂ Answer.SameButStatus answers others) (used : Nat) :
    ((answers.drop used).headD .none).SameButStatus ((others.drop used).headD .none) := by
  -- Both scripts have the same length, so after as many answers both are empty or both have a first one.
  have left := List.forall₂_drop used scripts
  generalize answers.drop used = rest at left ⊢
  generalize others.drop used = otherRest at left ⊢
  cases left with
  | nil => exact .refl _
  | cons first _ => exact first

/-- A request has responses that are equal up to ordinary status codes, and leaves both wires abreast. -/
theorem carry (scripts : List.Forall₂ Answer.SameButStatus answers others)
    (abreast : Abreast tunnels answers others used wire other) (client : Client) (hop : Hop) : ∃ later,
      Option.Rel (ResultAlike Response.SameButStatus) (wire.carry client hop).1 (other.carry client hop).1 ∧
      Abreast tunnels answers others later (wire.carry client hop).2 (other.carry client hop).2 := by
  by_cases reached : Reached tunnels hop.url
  · -- Where the server is reached, each wire takes the next answer of its script.
    obtain ⟨given, sees⟩ := carry_reached client abreast.network reached
    obtain ⟨otherGiven, otherSees⟩ := carry_reached client abreast.otherNetwork reached
    have responses := client.receive_alike (head scripts used)
    refine ⟨used + 1, ?_, ?_, ?_, ?_, ?_⟩
    · rw [given, otherGiven]
      exact responses
    · rw [sees.network, List.drop_drop]
      rfl
    · rw [otherSees.network, List.drop_drop]
      rfl
    · -- The jars grow by the same cookies, since the header fields of the responses are the same.
      generalize client.receive _ = response at responses given
      generalize client.receive _ = otherResponse at responses otherGiven
      cases responses with
      | none => rw [carry_jar_of_no_response (by simp [given]), carry_jar_of_no_response (by simp [otherGiven]),
          abreast.jar]
      | some same =>
        cases same with
        | error cause => rw [carry_jar_of_no_response (by simp [given]),
            carry_jar_of_no_response (by simp [otherGiven]), abreast.jar]
        | ok same =>
          rw [carry_jar_of_response given, carry_jar_of_response otherGiven, abreast.jar]
          simp only [Response.values, same.headers]
    · rw [sees.seen, otherSees.seen, abreast.seen]
      simp only [List.map_cons, List.map_nil, Sighting.request, Wire.sighting, abreast.jar]
  · -- A refused tunnel takes no answer and changes nothing.
    rw [carry_unreached abreast.network reached, carry_unreached abreast.otherNetwork reached]
    exact ⟨used, .some (.error _), abreast⟩

/-- Two responses from the same URL that are equal up to ordinary status codes. -/
def Arrivals (first second : Url × Response) : Prop := first.1 = second.1 ∧ first.2.SameButStatus second.2

/-- One request either ends both chains, in outcomes that are equal up to ordinary status codes, or is
redirected to the same next request. -/
theorem leg (scripts : List.Forall₂ Answer.SameButStatus answers others)
    (abreast : Abreast tunnels answers others used wire other) (client : Client) (hop : Hop) : ∃ later,
      Abreast tunnels answers others later (wire.leg client hop).2 (other.leg client hop).2 ∧
      ((∃ outcome otherOutcome, (wire.leg client hop).1 = .settled outcome ∧
          (other.leg client hop).1 = .settled otherOutcome ∧
          Option.Rel (ResultAlike Arrivals) outcome otherOutcome) ∨
        ∃ next, (wire.leg client hop).1 = .redirected next ∧ (other.leg client hop).1 = .redirected next) := by
  -- The responses decide, so the cases are those of the two related responses.
  obtain ⟨later, responses, after⟩ := abreast.carry scripts client hop
  refine ⟨later, ?_⟩
  unfold Wire.leg
  generalize wire.carry client hop = carried at responses after ⊢
  generalize other.carry client hop = otherCarried at responses after ⊢
  obtain ⟨response, next⟩ := carried
  obtain ⟨otherResponse, otherNext⟩ := otherCarried
  cases responses with
  | none => exact ⟨after, .inl ⟨_, _, rfl, rfl, .none⟩⟩
  | some same =>
    cases same with
    | error cause => exact ⟨after, .inl ⟨_, _, rfl, rfl, .some (.error _)⟩⟩
    | ok same =>
      -- Redirects have equal status codes here, and so they rewrite the request in the same way.
      obtain ⟨nowhere, otherNowhere⟩ | ⟨place, goes, otherGoes, status⟩ := same.location hop.url
      · simp only [nowhere, otherNowhere]
        exact ⟨after, .inl ⟨_, _, rfl, rfl, .some (.ok ⟨rfl, same⟩)⟩⟩
      · simp only [goes, otherGoes, status]
        exact ⟨after, .inr ⟨_, rfl, rfl⟩⟩

/-- A chain of redirects is the same over both scripts, with outcomes that are equal up to ordinary status
codes. -/
theorem follow (scripts : List.Forall₂ Answer.SameButStatus answers others) (left : Nat)
    (abreast : Abreast tunnels answers others used wire other) (client : Client) (hop : Hop) : ∃ later,
      Option.Rel (ResultAlike Arrivals) (wire.follow client hop left).1 (other.follow client hop left).1 ∧
      Abreast tunnels answers others later (wire.follow client hop left).2
        (other.follow client hop left).2 := by
  -- Induction on the redirects that are left: each one leaves the wires abreast again.
  induction left generalizing used wire other hop with
  | zero =>
    obtain ⟨later, after, ⟨_, _, ends, otherEnds, outcomes⟩ | ⟨next, goes, otherGoes⟩⟩ :=
      abreast.leg scripts client hop
    · rw [follow_settled ends, follow_settled otherEnds]
      exact ⟨later, outcomes, after⟩
    · rw [follow_zero goes, follow_zero otherGoes]
      exact ⟨later, .some (.error _), after⟩
  | succ left ih =>
    obtain ⟨later, after, ⟨_, _, ends, otherEnds, outcomes⟩ | ⟨next, goes, otherGoes⟩⟩ :=
      abreast.leg scripts client hop
    · rw [follow_settled ends, follow_settled otherEnds]
      exact ⟨later, outcomes, after⟩
    · rw [follow_succ goes, follow_succ otherGoes]
      -- The next URL is the same, so both go on or both are stopped by its scheme.
      split
      · exact ih after next
      · exact ⟨later, .some (.error _), after⟩

/-- The replies or errors that the program gets from such outcomes are equal up to ordinary status codes. -/
theorem conclude (client : Client) (call : Call) {outcome otherOutcome : Except SendFault (Url × Response)}
    (outcomes : ResultAlike Arrivals outcome otherOutcome) :
    ResultAlike Reply.SameButStatus (client.conclude call outcome) (client.conclude call otherOutcome) := by
  -- An error is kept as it is; a response becomes a reply.
  cases outcomes with
  | error fault => exact .error _
  | @ok first second same =>
    obtain ⟨url, response⟩ := first
    obtain ⟨otherUrl, otherResponse⟩ := second
    obtain ⟨rfl, responses⟩ := same
    exact .ok (responses.reply client url)

/-- A request of the program has replies that are equal up to ordinary status codes, and leaves both wires
abreast. -/
theorem send (scripts : List.Forall₂ Answer.SameButStatus answers others)
    (abreast : Abreast tunnels answers others used wire other) (client : Client) (call : Call) : ∃ later,
      Option.Rel (ResultAlike Reply.SameButStatus) (wire.send client call).1 (other.send client call).1 ∧
      Abreast tunnels answers others later (wire.send client call).2 (other.send client call).2 := by
  -- A request with all its redirects is a chain, for which this is `follow`.
  obtain ⟨later, outcomes, after⟩ := abreast.follow scripts redirectLimit client (client.first call)
  refine ⟨later, ?_, after⟩
  unfold Wire.send
  generalize wire.follow client (client.first call) redirectLimit = followed at outcomes ⊢
  generalize other.follow client (client.first call) redirectLimit = otherFollowed at outcomes ⊢
  obtain ⟨outcome, next⟩ := followed
  obtain ⟨otherOutcome, otherNext⟩ := otherFollowed
  cases outcomes with
  | none => exact .none
  | some same => exact .some (conclude client call same)

end Abreast

end Wire

end AccessProbe
