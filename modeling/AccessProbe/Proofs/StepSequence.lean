import AccessProbe.Proofs.Endings
import AccessProbe.Proofs.Http.Carried
import AccessProbe.Proofs.PlanLikeness
import AccessProbe.Proofs.RequestGroups

/-! The steps of one probe share their cookies and nothing else. -/

namespace AccessProbe

/-- Two requests that are equal up to their `cookie` header. -/
structure Request.SameButCookies (request other : Request) : Prop where
  method : request.method = other.method
  url : request.url = other.url
  headers : request.headers.erase "cookie" = other.headers.erase "cookie"
  body : request.body = other.body

/-- Framing does not depend on cookies. -/
theorem Hop.erase_cookie_framed (body : List UInt8) (fields : Headers) :
    (framed body fields).erase "cookie" = framed body (fields.erase "cookie") := by
  -- Framing reads and changes the headers that delimit the body only, both of them other than `cookie`.
  have coding : (fields.erase "cookie").get? "transfer-encoding" = fields.get? "transfer-encoding" :=
    Headers.get?_erase_of_ne _ (by decide)
  have before : "cookie" < "transfer-encoding" := by decide
  simp only [framed, coding]
  split
  · exact Headers.erase_comm _ _ _
  · split
    · rfl
    · rw [Headers.erase_insert_of_lt _ _ before, Headers.erase_comm]

/-- Without its cookies a request does not depend on the jar. -/
theorem Hop.erase_cookie (hop : Hop) (jar : Jar) :
    (hop.request jar).headers.erase "cookie" = framed hop.body (hop.ownFields.erase "cookie") := by
  -- The jar sets `cookie` only.
  rw [Hop.request, erase_cookie_framed]
  congr 1
  simp only [shownFields]
  split
  · exact Headers.erase_withDefault _ _ _
  · rfl

/-- The relation of requests that are equal up to cookies, over any jars. -/
def Likeness.cookies : Likeness where
  hops := Eq
  requests := Request.SameButCookies
  jars := fun _ _ => True
  url := Likeness.same.url
  request := fun same _ => by
    subst same
    exact ⟨rfl, rfl, (Hop.erase_cookie _ _).trans (Hop.erase_cookie _ _).symm, rfl⟩
  redirected := Likeness.same.redirected
  insertAll := fun _ _ _ => trivial

namespace Plan

variable {α : Type} {verbosity : Verbosity}

/-- A run without report limit leaves the report without limit. -/
theorem room_run (plan : Plan α) {work : Work} (free : work.report.room = none) :
    (plan.run verbosity work).2.report.room = none := by
  obtain ⟨wire, log, written, room⟩ := work
  obtain rfl : room = none := free
  rw [run_frame]

/-- Two runs of a plan over the same network with different jars have the same result, log and report, and
requests that are equal up to cookies. -/
theorem run_jars (plan : Plan α) {wire other : Wire} (network : wire.network = other.network)
    (log otherLog : List LogRecord) (written otherWritten : List UInt8) :
    let ended := plan.run verbosity ⟨wire, log, ⟨written, none⟩⟩
    let otherEnded := plan.run verbosity ⟨other, otherLog, ⟨otherWritten, none⟩⟩
    ended.1 = otherEnded.1 ∧ ended.2.wire.network = otherEnded.2.wire.network ∧
      (∃ records, ended.2.log = log ++ records ∧ otherEnded.2.log = otherLog ++ records) ∧
      (∃ bytes, ended.2.report.written = written ++ bytes ∧
        otherEnded.2.report.written = otherWritten ++ bytes) ∧
      ∃ sent otherSent, ended.2.wire.seen = wire.seen ++ sent ∧
        otherEnded.2.wire.seen = other.seen ++ otherSent ∧
        List.Forall₂ Request.SameButCookies sent otherSent := by
  -- A plan is related to itself by `Likeness.cookies`.
  intro ended otherEnded
  have alike : Plan.Alike .cookies Eq plan plan := .refl (fun _ => rfl) plan
  obtain ⟨result, told, wrote, wires⟩ := alike.run (.start network trivial) verbosity [] ⟨[], none⟩
  -- Both runs add what they would to an empty log and an empty report.
  have mine : ended = _ := run_frame plan wire log written
  have others : otherEnded = _ := run_frame plan other otherLog otherWritten
  rw [mine, others]
  exact ⟨result, wires.network, ⟨_, rfl, by rw [told]⟩, ⟨_, rfl, by rw [wrote]⟩, wires.seen⟩

end Plan

namespace Probe

/-- A step that a probe can take, any number of times. -/
inductive Step where
  | session
  | token
  | register
  | list (kind : SecretKind)
  deriving DecidableEq, Repr

/-- The plan of a step. -/
def Step.plan (step : Step) (probe : Probe) : Plan Unit :=
  match step with
  | .session => probe.session
  | .token => probe.token
  | .register => probe.register
  | .list kind => probe.list kind

/-- A step of a sequence with its run. -/
structure Turn where
  step : Step
  /-- The state before it. -/
  before : Work
  /-- Its result, unless it waits for ever. -/
  result : Except Unfinished Unit
  /-- The state after it. -/
  after : Work

/-- The turns of a sequence of steps, whether earlier ones fail or not. -/
def turns (verbosity : Verbosity) (probe : Probe) : List Step → Work → List Turn
  | [], _ => []
  | step :: rest, work =>
    let (result, later) := (step.plan probe).run verbosity work
    ⟨step, work, result, later⟩ ::
      -- A step that waits for ever ends the sequence.
      (if result = .error .waiting then [] else turns verbosity probe rest later)

variable {verbosity : Verbosity} {probe : Probe} {steps : List Step} {work : Work}

/-- The steps are taken in order. -/
theorem turns_in_order : (probe.turns verbosity steps work).map Turn.step <+: steps := by
  -- A turn is in front of those of the remaining steps, or the last one.
  induction steps generalizing work with
  | nil => exact List.prefix_rfl
  | cons step rest ih =>
    rw [turns, List.map_cons]
    refine (List.prefix_cons_inj _).mpr ?_
    split
    · exact List.nil_prefix
    · exact ih

/-- Every step is taken, if none waits for ever. -/
theorem map_step_turns (ended : ∀ turn ∈ probe.turns verbosity steps work, turn.result ≠ .error .waiting) :
    (probe.turns verbosity steps work).map Turn.step = steps := by
  -- No turn ends the sequence, so that each one is in front of those of the remaining steps.
  induction steps generalizing work with
  | nil => rfl
  | cons step rest ih =>
    simp only [turns] at ended ⊢
    obtain ⟨first, others⟩ := List.forall_mem_cons.mp ended
    rw [if_neg first] at others ⊢
    exact congrArg _ (ih others)

/-- A turn is a run of its step, without report limit if there is none at the start. -/
theorem turn_ran (free : work.report.room = none) : ∀ turn ∈ probe.turns verbosity steps work,
    turn.before.report.room = none ∧
      (turn.step.plan probe).run verbosity turn.before = (turn.result, turn.after) := by
  -- By induction over every state without a report limit, which is the invariant of the turns.
  induction steps generalizing work with
  | nil => simp [turns]
  | cons step rest ih =>
    refine List.forall_mem_cons.mpr ⟨⟨free, rfl⟩, ?_⟩
    split
    · simp
    · -- The next turn starts with what this one leaves, which has no report limit either.
      exact ih (Plan.room_run _ free)

/-- A step waits for ever only without a time limit. -/
theorem Step.ends (step : Step) (probe : Probe) :
    (step.plan probe).Ends (fun _ => True) (mayStop probe.client.timeLimit) :=
  match step with
  | .session => session_ends probe
  | .token => token_ends probe
  | .register => register_ends probe
  | .list kind => list_ends probe kind

/-- With a time limit no step waits for ever. -/
theorem turn_ended (free : work.report.room = none) (limited : probe.client.timeLimit ≠ none) :
    ∀ turn ∈ probe.turns verbosity steps work, turn.result ≠ .error .waiting := by
  -- A turn is a run of its step without report limit, to which `Step.ends` applies.
  intro ⟨step, ⟨wire, log, written, room⟩, result, after⟩ member
  obtain ⟨unlimited, ran⟩ := turn_ran free _ member
  obtain rfl : room = none := unlimited
  have ends := (step.ends probe).run_ne_waiting limited verbosity wire log written
  rwa [ran] at ends

section Preparation

variable {library : Library} {files : Files} {config : Configuration} {mode : Mode}

/-- Preparing a probe has the same result and log in any state, and changes nothing else. -/
theorem run_prepare (library : Library) (files : Files) (config : Configuration) (mode : Mode)
    (verbosity : Verbosity) :
    ∃ result records, ∀ wire log report, (prepare library files config mode).run verbosity ⟨wire, log, report⟩ =
      (result, ⟨wire, log ++ records, report⟩) := by
  let warned := verbosity.kept (Verification.warnings config (.ofMode mode config))
  -- The result is that of building the client, which reads no state.
  cases built : buildClient library files config (.ofMode mode config) with
  | error cause =>
    refine ⟨.error (.failed (.client cause)), warned, fun wire log report => ?_⟩
    rw [prepare, Plan.run_bind, Verification.run_prepareClient, built]
    rfl
  | ok client =>
    refine ⟨.ok ⟨config.target, config.credentials, client⟩, warned, fun wire log report => ?_⟩
    rw [prepare, Plan.run_bind, Verification.run_prepareClient, built]
    rfl

/-- A probe is prepared with the client that is built. -/
theorem run_prepare_ok {client : Client} {wire : Wire} (report : Report)
    (built : buildClient library files config (.ofMode mode config) = .ok client) :
    ∃ log, (prepare library files config mode).run verbosity ⟨wire, [], report⟩ =
      (.ok ⟨config.target, config.credentials, client⟩, ⟨wire, log, report⟩) := by
  -- The log has the warning, if there is one.
  refine ⟨[] ++ verbosity.kept (Verification.warnings config (.ofMode mode config)), ?_⟩
  rw [prepare, Plan.run_bind, Verification.run_prepareClient, built]
  rfl

/-- A prepared probe has the time limit of the configuration. -/
theorem timeLimit_of_prepare {work later : Work} (free : work.report.room = none)
    (prepared : (prepare library files config mode).run verbosity work = (.ok probe, later)) :
    probe.client.timeLimit = config.timeLimit := by
  -- This is what `prepare_ends` states of the value.
  obtain ⟨wire, log, written, room⟩ := work
  obtain rfl : room = none := free
  have ends := (prepare_ends library files config mode).run verbosity wire log written
  rwa [prepared] at ends

end Preparation

/-- In a sequence of steps without report limit every step is taken whether earlier ones fail or not, unless
one waits for ever, which needs a configuration without time limit. Every step has the same report, log,
result and number of answers taken, and the same requests up to cookies, as if it were taken alone by a fresh
probe over the answers that are left. -/
theorem steps_share_cookies_only {library : Library} {files : Files} {config : Configuration} {mode : Mode}
    {verbosity : Verbosity} {network : Network} {time : Int} {order : CookieOrder} {probe : Probe} {begun : Work}
    (prepared : (prepare library files config mode).run verbosity (.start network time order none) =
      (.ok probe, begun)) (steps : List Step) :
    (probe.turns verbosity steps begun).map Turn.step <+: steps ∧
      ((∀ turn ∈ probe.turns verbosity steps begun, turn.result ≠ .error .waiting) →
        (probe.turns verbosity steps begun).map Turn.step = steps) ∧
      (config.timeLimit ≠ none → ∀ turn ∈ probe.turns verbosity steps begun, turn.result ≠ .error .waiting) ∧
      ∀ turn ∈ probe.turns verbosity steps begun, ∀ now others,
        let alone := (prepare library files config mode >>= turn.step.plan).run verbosity
          (.start turn.before.wire.network now others none)
        alone.1 = turn.result ∧
          turn.after.report.written = turn.before.report.written ++ alone.2.report.written ∧
          (∃ records, turn.after.log = turn.before.log ++ records ∧ alone.2.log = begun.log ++ records) ∧
          turn.after.wire.network = alone.2.wire.network ∧
          ∃ sent, turn.after.wire.seen = turn.before.wire.seen ++ sent ∧
            List.Forall₂ Request.SameButCookies sent alone.2.wire.seen := by
  -- A turn is a run of its step, and `Plan.run_jars` compares it with one over an empty jar.
  have limit := timeLimit_of_prepare rfl prepared
  obtain ⟨result, records, ran⟩ := run_prepare library files config mode verbosity
  -- Preparing the probe changes the log only.
  rw [Work.start, ran] at prepared
  obtain ⟨rfl, rfl⟩ := Prod.mk.inj prepared
  refine ⟨turns_in_order, map_step_turns, fun limited => turn_ended rfl (limit ▸ limited), ?_⟩
  intro ⟨step, ⟨wire, log, written, room⟩, result, after⟩ member now others alone
  obtain ⟨free, stepped⟩ := turn_ran rfl _ member
  obtain rfl : room = none := free
  -- A fresh probe is the same one, and takes the step with an empty jar.
  have fresh : alone = (step.plan probe).run verbosity
      ⟨⟨wire.network, .empty now others, []⟩, [] ++ records, .empty none⟩ := by
    show (prepare library files config mode >>= step.plan).run verbosity _ = _
    rw [Plan.run_bind, Work.start, ran]
  have answers : wire.network = (Wire.mk wire.network (.empty now others) []).network := rfl
  obtain ⟨same, network, told, ⟨bytes, wrote, wroteAlone⟩, sent, sentAlone, seen, seenAlone, alike⟩ :=
    Plan.run_jars (step.plan probe) answers log ([] ++ records) written []
  rw [stepped] at same network told wrote seen
  rw [fresh]
  refine ⟨same.symm, ?_, told, network, sent, seen, ?_⟩
  · rw [wrote, Report.empty, wroteAlone, List.nil_append]
  · rw [Report.empty, seenAlone, List.nil_append]
    exact alike

/-- A cookie of a failed session is sent in the next step, and changes nothing else there. -/
theorem cookies_outlive_failed_session :
    let config : Configuration := ⟨Url.loopback, "agent", "secret", none, none, .error⟩
    let answers : List Answer := [⟨200, [("Set-Cookie", "id=7; Path=/")], [], none⟩,
      ⟨200, [], [], some .close⟩, ⟨200, [], [0x6F, 0x6B], none⟩]
    let probe : Probe := ⟨Url.loopback, ⟨"agent", "secret"⟩, ⟨[("user-agent", userAgent)], none, .plain⟩⟩
    let begun : Work := .start (.scripted false answers) 0 .asKept none
    let first := (Step.plan .session probe).run .error begun
    let second := (Step.plan (.list .creditCard) probe).run .error first.2
    let alone := (prepare .plain [] config .session >>= Step.plan (.list .creditCard)).run .error
      (.start first.2.wire.network 0 .asKept none)
    (prepare .plain [] config .session).run .error begun = (.ok probe, begun) ∧ first.1 ≠ .ok () ∧
      alone.1 = second.1 ∧
      second.2.report.written = first.2.report.written ++ alone.2.report.written ∧
      ∃ sent, second.2.wire.seen = first.2.wire.seen ++ sent ∧ sent ≠ alone.2.wire.seen ∧
        List.Forall₂ Request.SameButCookies sent alone.2.wire.seen := by
  intro config answers probe begun first second alone
  have prepared : (prepare .plain [] config .session).run .error begun = (.ok probe, begun) := rfl
  have failed : first.1 ≠ .ok () := by decide +kernel
  have differ : second.2.wire.seen ≠ first.2.wire.seen ++ alone.2.wire.seen := by decide +kernel
  have member : ⟨.list .creditCard, first.2, second.1, second.2⟩ ∈
      probe.turns .error [.session, .list .creditCard] begun := .tail _ (.head _)
  obtain ⟨result, wrote, _, _, sent, seen, alike⟩ :=
    (steps_share_cookies_only prepared [.session, .list .creditCard]).2.2.2 _ member 0 .asKept
  with_reducible refine ⟨prepared, failed, result, wrote, sent, seen, fun same => ?_, alike⟩
  rw [same] at seen
  exact differ seen

end Probe

end AccessProbe
