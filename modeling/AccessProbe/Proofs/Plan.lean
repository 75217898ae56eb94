import AccessProbe.Plan
import AccessProbe.Proofs.Http.Trail

/-! The acts of a plan in order, and the requests among them. -/

namespace AccessProbe

/-- One step of a plan. -/
inductive Act where
  /-- A string is written to the report. -/
  | write (text : String)
  /-- A record is written to the log. -/
  | note (record : LogRecord)
  | send (client : Client) (call : Call)

/-- The request of a step that sends one. -/
def Act.sent? : Act → Option (Client × Call)
  | .send client call => some (client, call)
  | .write _ | .note _ => none

namespace Plan

variable {α β γ : Type} {verbosity : Verbosity}

/-- The steps of a run, up to where it ends or the report limit is reached. -/
def acts (verbosity : Verbosity) : Plan α → Work → List Act
  | .done _, _ | .stop _, _ => []
  | .write text next, work =>
    let bytes := Utf8.encode text.toList
    .write text :: (if work.report.fits bytes.length then
      next.acts verbosity { work with report := work.report.append bytes } else [])
  | .note record next, work => .note record :: next.acts verbosity (work.note verbosity record)
  | .send client call next, work =>
    let (reply, wire) := work.wire.send client call
    .send client call :: (next reply).acts verbosity { work with wire }

/-- The requests of a run, in order. -/
def requests (verbosity : Verbosity) (plan : Plan α) (work : Work) : List (Client × Call) :=
  (plan.acts verbosity work).filterMap Act.sent?

theorem tell_bind (record : LogRecord) (rest : Unit → Plan α) :
    (tell record >>= rest) = .note record (rest ()) := rfl

/-- Sequencing plans is associative. -/
theorem bind_assoc (plan : Plan α) (rest : α → Plan β) (last : β → Plan γ) :
    (plan >>= rest) >>= last = plan >>= fun value => rest value >>= last := by
  -- Induction on the first plan; where it returns a value both sides continue alike.
  show (plan.bind rest).bind last = plan.bind fun value => (rest value).bind last
  induction plan with
  | done value => rfl
  | stop cause => rfl
  | write text next ih => exact congrArg (Plan.write text) ih
  | note record next ih => exact congrArg (Plan.note record) ih
  | send client call next ih => exact congrArg (Plan.send client call) (funext ih)

/-- A sequence runs its first plan, and then the second one from where that has ended. -/
@[simp] theorem run_bind (plan : Plan α) (rest : α → Plan β) (work : Work) :
    (plan >>= rest).run verbosity work = match plan.run verbosity work with
      | (.ok value, later) => (rest value).run verbosity later
      | (.error cause, later) => (.error cause, later) := by
  -- The induction is over every state; a plan that stops leaves out the rest.
  show (plan.bind rest).run verbosity work = _
  induction plan generalizing work with
  | done value => rfl
  | stop cause => rfl
  | write text next ih =>
    simp only [Plan.bind, run]
    split
    · exact ih _
    · rfl
  | note record next ih => exact ih _
  | send client call next ih => exact ih _ _

/-- The steps of a sequence are those of its first plan followed by those of the second. -/
@[simp] theorem acts_bind (plan : Plan α) (rest : α → Plan β) (work : Work) :
    (plan >>= rest).acts verbosity work = plan.acts verbosity work ++
      match plan.run verbosity work with
      | (.ok value, later) => (rest value).acts verbosity later
      | (.error _, _) => [] := by
  show (plan.bind rest).acts verbosity work = _
  -- Induction on the first plan; if it stops or reaches the report limit there are no further steps.
  induction plan generalizing work with
  | done value => rfl
  | stop cause => rfl
  | write text next ih =>
    simp only [Plan.bind, acts, run]
    split
    · rw [ih]
      rfl
    · rfl
  | note record next ih => simp only [Plan.bind, acts, run, ih, List.cons_append]
  | send client call next ih => simp only [Plan.bind, acts, run, ih, List.cons_append]

/-- The requests of a sequence are those of its first plan followed by those of the second. -/
theorem requests_bind (plan : Plan α) (rest : α → Plan β) (work : Work) :
    (plan >>= rest).requests verbosity work = plan.requests verbosity work ++
      match plan.run verbosity work with
      | (.ok value, later) => (rest value).requests verbosity later
      | (.error _, _) => [] := by
  -- Requests are filtered from the steps, and filtering distributes over appending.
  rw [requests, acts_bind, List.filterMap_append]
  congr 1
  split <;> rfl

/-- A log record leaves the wire as it is. -/
theorem wire_note (work : Work) (record : LogRecord) :
    (work.note verbosity record).wire = work.wire := by
  -- Shown or not, it changes the log at most.
  unfold Work.note
  split <;> rfl

/-- A run leaves the wire as sending its requests does. -/
theorem wire_run (plan : Plan α) (work : Work) :
    (plan.run verbosity work).2.wire =
      (work.wire.sendAll (plan.requests verbosity work)).2 := by
  -- Induction on the plan; only where it sends does the wire change.
  induction plan generalizing work with
  | done value => rfl
  | stop cause => rfl
  | write text next ih =>
    simp only [run, requests, acts]
    split
    · exact ih _
    · rfl
  | note record next ih =>
    have rest := ih (work.note verbosity record)
    rw [wire_note] at rest
    exact rest
  | send client call next ih => exact ih _ _

/-- A plan sends these requests in this order, all of them if it returns a value. -/
structure Sends (plan : Plan α) (requests : List (Client × Call)) : Prop where
  /-- Every run sends a prefix of the requests. -/
  inTurn : ∀ verbosity work, plan.requests verbosity work <+: requests
  /-- A run that returns a value sends all of them. -/
  toTheEnd : ∀ verbosity work value later, plan.run verbosity work = (.ok value, later) →
    plan.requests verbosity work = requests

namespace Sends

variable {first second : List (Client × Call)}

theorem done (value : α) : (Plan.done value).Sends [] :=
  ⟨fun _ _ => List.prefix_rfl, fun _ _ _ _ _ => rfl⟩

/-- A plan that stops sends none, whatever it was meant to send. -/
theorem stop (cause : Unfinished) (requests : List (Client × Call)) :
    (Plan.stop cause : Plan α).Sends requests :=
  ⟨fun _ _ => List.nil_prefix, fun _ _ _ _ finished => by cases finished⟩

/-- Writing to the report sends nothing. -/
theorem write (text : String) {next : Plan α} (after : next.Sends second) :
    (Plan.write text next).Sends second := by
  -- At the report limit the plan stops without sending anything.
  refine ⟨fun verbosity work => ?_, fun verbosity work value later finished => ?_⟩
  · simp only [requests, acts]
    split
    · exact after.inTurn verbosity _
    · exact List.nil_prefix
  · simp only [run] at finished
    split at finished
    · rename_i fits
      simp only [requests, acts, fits, if_true]
      exact after.toTheEnd verbosity _ value later finished
    · cases finished

theorem ofExcept (result : Except ProbeError α) : (Plan.ofExcept result).Sends [] :=
  match result with
  | .ok value => .done value
  | .error error => .stop (.failed error) []

theorem await (awaited : Option α) : (Plan.await awaited).Sends [] :=
  match awaited with
  | some value => .done value
  | none => .stop .waiting []

/-- Logging sends nothing. -/
theorem note (record : LogRecord) {next : Plan α} (after : next.Sends second) :
    (Plan.note record next).Sends second :=
  ⟨fun verbosity _ => after.inTurn verbosity _,
    fun verbosity _ value later finished => after.toTheEnd verbosity _ value later finished⟩

/-- Sending a request puts it before the others. -/
theorem send (client : Client) (call : Call) {next : Option (Except SendError Reply) → Plan α}
    (after : ∀ reply, (next reply).Sends second) :
    (Plan.send client call next).Sends ((client, call) :: second) := by
  -- Both parts put the request before what they state of the rest.
  refine ⟨fun verbosity work => ?_, fun verbosity work value later finished => ?_⟩
  · exact List.prefix_cons_inj _ |>.mpr ((after _).inTurn verbosity _)
  · exact congrArg _ ((after _).toTheEnd verbosity _ value later finished)

/-- A sequence sends the requests of its first plan, then those of the second. -/
theorem bind {plan : Plan α} {rest : α → Plan β} (before : plan.Sends first)
    (after : ∀ value, (rest value).Sends second) : (plan >>= rest).Sends (first ++ second) := by
  -- The second plan is run only if the first one returns a value, which has then sent all its requests.
  refine ⟨fun verbosity work => ?_, fun verbosity work value later finished => ?_⟩
  · rw [requests_bind]
    match ended : plan.run verbosity work with
    | (.ok value, later) =>
      rw [before.toTheEnd verbosity work value later ended]
      exact (List.prefix_append_right_inj _).mpr ((after value).inTurn verbosity later)
    | (.error cause, later) =>
      rw [List.append_nil]
      exact (before.inTurn verbosity work).trans (List.prefix_append _ _)
  · rw [run_bind] at finished
    rw [requests_bind]
    match ended : plan.run verbosity work with
    | (.ok between, middle) =>
      rw [ended] at finished
      rw [before.toTheEnd verbosity work between middle ended]
      exact congrArg _ ((after between).toTheEnd verbosity middle value later finished)
    | (.error cause, middle) =>
      rw [ended] at finished
      cases finished

/-- A plan that sends nothing may follow. -/
theorem bind_nil {plan : Plan α} {rest : α → Plan β} (before : plan.Sends first)
    (after : ∀ value, (rest value).Sends []) : (plan >>= rest).Sends first := by
  -- Appending no requests changes nothing.
  have whole := before.bind after
  rwa [List.append_nil] at whole

/-- A plan that sends nothing has no requests. -/
theorem requests_eq_nil {plan : Plan α} (silent : plan.Sends []) (work : Work) :
    plan.requests verbosity work = [] :=
  List.prefix_nil.mp (silent.inTurn verbosity work)

end Sends

end Plan

end AccessProbe
