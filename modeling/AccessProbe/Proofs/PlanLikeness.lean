import AccessProbe.Proofs.Attempt
import AccessProbe.Proofs.Http.Likeness

/-! Plans that differ in related requests only have the same report, log and result. -/

namespace AccessProbe

namespace Plan

variable {α β γ δ : Type} {like : Likeness} {values : α → β → Prop} {verbosity : Verbosity}

/-- Two plans that write and log the same, send related requests in the same places, and return related values
or stop for the same cause. -/
inductive Alike (like : Likeness) (values : α → β → Prop) : Plan α → Plan β → Prop where
  /-- Both return related values. -/
  | done {value : α} {other : β} (together : values value other) : Alike like values (.done value) (.done other)
  /-- Both stop. -/
  | stop (cause : Unfinished) : Alike like values (.stop cause) (.stop cause)
  /-- Both write this string. -/
  | write (text : String) {next : Plan α} {otherNext : Plan β} (after : Alike like values next otherNext) :
    Alike like values (.write text next) (.write text otherNext)
  /-- Both log this record. -/
  | note (record : LogRecord) {next : Plan α} {otherNext : Plan β} (after : Alike like values next otherNext) :
    Alike like values (.note record next) (.note record otherNext)
  /-- Both send related requests, and are related for every reply. -/
  | send {client otherClient : Client} {call otherCall : Call} {next : Option (Except SendError Reply) → Plan α}
    {otherNext : Option (Except SendError Reply) → Plan β} (agree : client.Agrees otherClient)
    (calls : like.hops (client.first call) (otherClient.first otherCall))
    (after : ∀ reply, Alike like values (next reply) (otherNext reply)) :
    Alike like values (.send client call next) (.send otherClient otherCall otherNext)

namespace Alike

/-- A plan is related to itself if requests are. -/
theorem refl (self : ∀ hop, like.hops hop hop) (plan : Plan α) : Alike like Eq plan plan := by
  induction plan with
  | done value => exact .done rfl
  | stop cause => exact .stop cause
  | write text next ih => exact .write text ih
  | note record next ih => exact .note record ih
  | send client call next ih => exact .send (.refl client) (self _) ih

/-- Sequences of related plans are related, if their second plans are for related values. -/
theorem bind {results : γ → δ → Prop} {plan : Plan α} {other : Plan β} {rest : α → Plan γ}
    {otherRest : β → Plan δ} (before : Alike like values plan other)
    (after : ∀ value otherValue, values value otherValue →
      Alike like results (rest value) (otherRest otherValue)) :
    Alike like results (plan >>= rest) (other >>= otherRest) := by
  show Alike like results (plan.bind rest) (other.bind otherRest)
  -- Induction along both first plans, up to where both return.
  induction before with
  | done together => exact after _ _ together
  | stop cause => exact .stop cause
  | write text _ ih => exact .write text ih
  | note record _ ih => exact .note record ih
  | send agree calls _ ih => exact .send agree calls ih

/-- The same where the first plans return equal values. -/
theorem bind_eq {results : γ → δ → Prop} {plan other : Plan α} {rest : α → Plan γ} {otherRest : α → Plan δ}
    (before : Alike like Eq plan other) (after : ∀ value, Alike like results (rest value) (otherRest value)) :
    Alike like results (plan >>= rest) (other >>= otherRest) :=
  before.bind fun value otherValue same => by
    subst same
    exact after value

/-- Related plans that start with the same log and report over related wires have the same result, log and
report, and leave related wires. -/
theorem run {plan other : Plan α} (alike : Alike like Eq plan other) {before otherBefore : List Request}
    {wire otherWire : Wire} (wires : like.Wires before otherBefore wire otherWire) (verbosity : Verbosity)
    (log : List LogRecord) (report : Report) :
    let ended := plan.run verbosity ⟨wire, log, report⟩
    let otherEnded := other.run verbosity ⟨otherWire, log, report⟩
    ended.1 = otherEnded.1 ∧ ended.2.log = otherEnded.2.log ∧ ended.2.report = otherEnded.2.report ∧
      like.Wires before otherBefore ended.2.wire otherEnded.2.wire := by
  -- Induction along both plans.
  induction alike generalizing wire otherWire log report with
  | done together => exact ⟨congrArg Except.ok together, rfl, rfl, wires⟩
  | stop cause => exact ⟨rfl, rfl, rfl, wires⟩
  | write text _ ih =>
    -- The reports are the same, so the string fits in both or in neither.
    simp only [Plan.run]
    split
    · exact ih wires _ _
    · exact ⟨rfl, rfl, rfl, wires⟩
  | note record _ ih =>
    simp only [Plan.run, Plan.note_eq]
    exact ih wires _ _
  | send agree calls _ ih =>
    -- Related requests over related wires get the same reply, so both plans go on related.
    obtain ⟨same, after⟩ := Likeness.send agree wires calls
    simp only [Plan.run, same]
    exact ih _ after _ _

end Alike

/-- A run without report limit does not depend on the log and the report before it. -/
theorem run_frame (plan : Plan α) (wire : Wire) (log : List LogRecord) (written : List UInt8) :
    let bare := plan.run verbosity ⟨wire, [], ⟨[], none⟩⟩
    plan.run verbosity ⟨wire, log, ⟨written, none⟩⟩ =
      (bare.1, ⟨bare.2.wire, log ++ bare.2.log, ⟨written ++ bare.2.report.written, none⟩⟩) := by
  -- Induction on the plan, for any log and report, since each step changes them.
  induction plan generalizing wire log written with
  | done value => simp [run]
  | stop cause => simp [run]
  | write text next ih =>
    simp only [run_write]
    rw [ih wire log, ih wire [] ([] ++ _)]
    simp
  | note record next ih =>
    simp only [run, note_eq]
    rw [ih wire (log ++ _), ih wire ([] ++ _)]
    simp
  | send client call next ih => exact ih _ _ log written

/-- A run only appends to the requests that servers have received. -/
theorem seen_run (plan : Plan α) (work : Work) :
    work.wire.seen <+: (plan.run verbosity work).2.wire.seen := by
  -- A run is related to itself, and the relation of wires keeps the requests received before.
  have alike : Alike .same Eq plan plan := .refl (fun _ => rfl) plan
  have start : Likeness.same.Wires work.wire.seen work.wire.seen work.wire work.wire := .start rfl rfl
  obtain ⟨_, _, _, wires⟩ := alike.run start verbosity work.log work.report
  obtain ⟨sent, _, added, _⟩ := wires.seen
  exact ⟨sent, added.symm⟩

end Plan

end AccessProbe
