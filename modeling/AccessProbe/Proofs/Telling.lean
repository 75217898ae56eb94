import AccessProbe.Proofs.PasswordSecrecy

/-! Plans whose log consists of a preface and one group of records per request. -/

namespace AccessProbe

/-- A request with its reply. -/
abbrev Attempt := (Client × Call) × Option (Except SendError Reply)

/-- The replies to a list of requests that follows another one are those over the wire that the first one
leaves. -/
theorem Wire.replies_append (wire : Wire) (first second : List (Client × Call)) :
    (wire.sendAll (first ++ second)).1 =
      (wire.sendAll first).1 ++ ((wire.sendAll first).2.sendAll second).1 := by
  induction first generalizing wire with
  | nil => rfl
  | cons request rest ih => exact congrArg (_ :: ·) (ih _)

namespace Plan

variable {α β : Type} {plan : Plan α} {verbosity : Verbosity} {of : Attempt → List LogRecord → Prop}
  {preface more : List LogRecord}

/-- The requests of a run with their replies. -/
def attempts (plan : Plan α) (verbosity : Verbosity) (work : Work) : List Attempt :=
  (plan.requests verbosity work).zip (work.wire.sendAll (plan.requests verbosity work)).1

/-- The attempts of a sequence are those of its first plan followed by those of the second. -/
theorem attempts_bind (plan : Plan α) (rest : α → Plan β) (work : Work) :
    (plan >>= rest).attempts verbosity work = plan.attempts verbosity work ++
      match plan.run verbosity work with
      | (.ok value, later) => (rest value).attempts verbosity later
      | (.error _, _) => [] := by
  -- The second plan sends its requests over the wire that the first one leaves.
  have left : (plan.run verbosity work).2.wire = _ := wire_run plan work
  rw [attempts, requests_bind, Wire.replies_append, List.zip_append (Wire.length_sendAll _ _).symm, ← left]
  match ended : plan.run verbosity work with
  | (.ok value, later) => rfl
  | (.error cause, later) => rfl

/-- A plan that sends nothing has no attempts. -/
theorem attempts_of_silent (silent : plan.Sends []) (work : Work) : plan.attempts verbosity work = [] := by
  -- It has no requests.
  rw [attempts, silent.requests_eq_nil]
  rfl

/-- A run without attempts leaves the wire as it is. -/
theorem wire_eq_of_attempts {work : Work} (none : plan.attempts verbosity work = []) :
    (plan.run verbosity work).2.wire = work.wire := by
  -- There is one attempt per request.
  have length : (plan.attempts verbosity work).length = (plan.requests verbosity work).length := by
    rw [attempts, List.length_zip, Wire.length_sendAll, Nat.min_self]
  rw [none, List.length_nil, eq_comm, List.length_eq_zero_iff] at length
  rw [wire_run, length]
  rfl

/-- The log of a run: a preface, then one group of records per attempt. A run may leave out the end of the
preface only if it stops before it sends anything. -/
structure Told (plan : Plan α) (verbosity : Verbosity) (work : Work) (preface : List LogRecord)
    (of : Attempt → List LogRecord → Prop) (first : List LogRecord) (groups : List (List LogRecord)) : Prop where
  /-- The records are logged as far as they are shown. -/
  log : (plan.run verbosity work).2.log = work.log ++ verbosity.kept (first ++ groups.flatten)
  /-- The first records are a prefix of the preface. -/
  begins : first <+: preface
  /-- They are all of it, unless the run stops before it sends anything. -/
  complete : first = preface ∨
    plan.attempts verbosity work = [] ∧ ∃ cause, (plan.run verbosity work).1 = .error cause
  /-- Every attempt has its group. -/
  grouped : List.Forall₂ of (plan.attempts verbosity work) groups

namespace Told

variable {work later : Work} {first second : List LogRecord} {groups others : List (List LogRecord)}
  {rest : α → Plan β} {value : α} {cause : Unfinished}

/-- A plan that sends nothing has no groups. -/
theorem groups_eq_nil (told : plan.Told verbosity work preface of first groups) (silent : plan.Sends []) :
    groups = [] := by
  -- It has no attempts.
  have none := told.grouped
  rw [attempts_of_silent silent] at none
  cases none
  rfl

/-- The log of a sequence whose first plan returns, provided that the second one has no preface or the first
one sends nothing. -/
theorem bind_ok (told : plan.Told verbosity work preface of first groups)
    (ended : plan.run verbosity work = (.ok value, later))
    (behind : (rest value).Told verbosity later more of second others) (order : more = [] ∨ plan.Sends []) :
    (plan >>= rest).Told verbosity work (preface ++ more) of (first ++ second) (groups ++ others) := by
  -- Attempts and groups of the two plans are appended.
  have all : (plan >>= rest).attempts verbosity work =
      plan.attempts verbosity work ++ (rest value).attempts verbosity later := by
    rw [attempts_bind, ended]
  have log := told.log
  have complete := told.complete
  rw [ended] at log complete
  have whole : first = preface := complete.resolve_right fun ⟨_, cause, stopped⟩ => by cases stopped
  -- The preface of the second plan moves before the groups of the first one: one of the two is empty.
  have swap : groups.flatten ++ second = second ++ groups.flatten := by
    obtain rfl | silent := order
    · rw [List.prefix_nil.mp behind.begins, List.append_nil, List.nil_append]
    · rw [told.groups_eq_nil silent, List.flatten_nil, List.append_nil, List.nil_append]
  refine ⟨?_, ?_, ?_, ?_⟩
  · calc ((plan >>= rest).run verbosity work).2.log
      _ = ((rest value).run verbosity later).2.log := by rw [run_bind, ended]
      _ = work.log ++ verbosity.kept (first ++ (groups.flatten ++ second) ++ others.flatten) := by
        rw [behind.log, log, List.append_assoc, ← Verbosity.kept_append]
        simp only [List.append_assoc]
      _ = work.log ++ verbosity.kept (first ++ second ++ (groups ++ others).flatten) := by
        rw [swap, List.flatten_append]
        simp only [List.append_assoc]
  · rw [whole]
    exact (List.prefix_append_right_inj _).mpr behind.begins
  · rw [whole, run_bind, ended, all]
    obtain rfl | silent := order
    · exact .inl (by rw [List.prefix_nil.mp behind.begins])
    · rw [attempts_of_silent silent]
      exact behind.complete.imp (congrArg _) id
  · rw [all]
    exact List.rel_append told.grouped behind.grouped

/-- The log of a sequence whose first plan stops. -/
theorem bind_stop (told : plan.Told verbosity work preface of first groups)
    (ended : plan.run verbosity work = (.error cause, later)) (order : more = [] ∨ plan.Sends []) :
    (plan >>= rest).Told verbosity work (preface ++ more) of first groups := by
  -- The second plan is not run, so everything is that of the first one.
  have all : (plan >>= rest).attempts verbosity work = plan.attempts verbosity work := by
    rw [attempts_bind, ended]
    exact List.append_nil _
  have log := told.log
  have complete := told.complete
  rw [ended] at log complete
  refine ⟨?_, told.begins.trans (List.prefix_append _ _), ?_, ?_⟩
  · rw [run_bind, ended]
    exact log
  · rw [all, run_bind, ended]
    obtain rfl | silent := order
    · rw [List.append_nil]
      exact complete.imp id fun ⟨unsent, _⟩ => ⟨unsent, cause, rfl⟩
    · exact .inr ⟨attempts_of_silent silent work, cause, rfl⟩
  · rw [all]
    exact told.grouped

end Told

/-- A plan whose runs all have such a log. -/
def Tells (plan : Plan α) (preface : List LogRecord) (of : Attempt → List LogRecord → Prop) : Prop :=
  ∀ verbosity work, ∃ first groups, plan.Told verbosity work preface of first groups

namespace Tells

/-- A plan that sends and logs nothing has no groups. -/
theorem silent (mute : plan.Mute) (sends : plan.Sends []) : plan.Tells [] of := by
  -- There are neither records nor attempts.
  intro verbosity work
  refine ⟨[], [], ?_, List.prefix_rfl, .inl rfl, ?_⟩
  · rw [mute verbosity work]
    exact (List.append_nil _).symm
  · rw [attempts_of_silent sends]
    exact .nil

/-- The groups of a plan that logs nothing are empty. -/
theorem mute (mute : plan.Mute) : plan.Tells [] fun _ group => group = [] := by
  -- There is one empty group per attempt.
  intro verbosity work
  refine ⟨[], (plan.attempts verbosity work).map fun _ => [], ?_, List.prefix_rfl, .inl rfl, ?_⟩
  · have nothing (attempts : List Attempt) : (attempts.map fun _ => ([] : List LogRecord)).flatten = [] := by
      simp
    rw [mute verbosity work, nothing]
    exact (List.append_nil _).symm
  · exact List.forall₂_map_right_iff.mpr (List.forall₂_same.mpr fun _ _ => rfl)

/-- A plan that stops leaves out the whole preface. -/
theorem stop (cause : Unfinished) : (Plan.stop cause : Plan α).Tells preface of := by
  -- There are neither records nor attempts, and the run stops.
  intro verbosity work
  exact ⟨[], [], (List.append_nil _).symm, List.nil_prefix, .inr ⟨rfl, cause, rfl⟩, .nil⟩

/-- A record before a plan is the first one of its preface. -/
theorem note (record : LogRecord) (after : plan.Tells preface of) :
    (Plan.note record plan).Tells (record :: preface) of := by
  -- Logging sends nothing, so the attempts are the same.
  intro verbosity ⟨wire, log, report⟩
  obtain ⟨first, groups, told⟩ := after verbosity ((Work.mk wire log report).note verbosity record)
  have same : (Plan.note record plan).attempts verbosity ⟨wire, log, report⟩ =
      plan.attempts verbosity ((Work.mk wire log report).note verbosity record) := by
    rw [attempts, attempts, wire_note]
    rfl
  refine ⟨record :: first, groups, ?_, List.cons_prefix_cons.mpr ⟨rfl, told.begins⟩, ?_, ?_⟩
  · rw [run, told.log, note_eq, List.append_assoc, ← Verbosity.kept_append]
    rfl
  · rw [same]
    exact told.complete.imp (congrArg _) id
  · rw [same]
    exact told.grouped

/-- Writing to the report logs nothing, and at the report limit the run stops. -/
theorem write (text : String) (after : plan.Tells preface of) : (Plan.write text plan).Tells preface of := by
  -- A string that does not fit ends the run, with the records up to there.
  intro verbosity work
  cases fits : work.report.fits (Utf8.encode text.toList).length with
  | true =>
    obtain ⟨first, groups, told⟩ := after verbosity
      { work with report := work.report.append (Utf8.encode text.toList) }
    have ran : (Plan.write text plan).run verbosity work =
        plan.run verbosity { work with report := work.report.append (Utf8.encode text.toList) } := by
      simp only [run, fits, if_true]
    have same : (Plan.write text plan).attempts verbosity work =
        plan.attempts verbosity { work with report := work.report.append (Utf8.encode text.toList) } := by
      simp only [attempts, requests, acts, fits, if_true]
      rfl
    refine ⟨first, groups, ?_, told.begins, ?_, ?_⟩
    · rw [ran, told.log]
    · rw [ran, same]
      exact told.complete
    · rw [same]
      exact told.grouped
  | false =>
    have ran : (Plan.write text plan).run verbosity work =
        (.error (.failed .output), { work with report := work.report.append (Utf8.encode text.toList) }) := by
      simp only [run, fits, Bool.false_eq_true, if_false]
    have none : (Plan.write text plan).attempts verbosity work = [] := by
      simp only [attempts, requests, acts, fits, Bool.false_eq_true, if_false]
      rfl
    refine ⟨[], [], ?_, List.nil_prefix, .inr ⟨none, .failed .output, by rw [ran]⟩, by rw [none]; exact .nil⟩
    rw [ran]
    exact (List.append_nil _).symm

/-- The log of a sequence, where the second plan may have a preface only if the first one sends nothing. -/
theorem prepend {rest : α → Plan β} (before : plan.Tells preface of) (after : ∀ value, (rest value).Tells more of)
    (order : more = [] ∨ plan.Sends []) : (plan >>= rest).Tells (preface ++ more) of := by
  -- A plan that stops leaves out the records of the rest.
  intro verbosity work
  obtain ⟨first, groups, told⟩ := before verbosity work
  match ended : plan.run verbosity work with
  | (.ok value, later) =>
    obtain ⟨second, others, behind⟩ := after value verbosity later
    exact ⟨first ++ second, groups ++ others, told.bind_ok ended behind order⟩
  | (.error cause, later) => exact ⟨first, groups, told.bind_stop ended order⟩

/-- The log of a sequence whose second plan has no preface. -/
theorem bind {rest : α → Plan β} (before : plan.Tells preface of) (after : ∀ value, (rest value).Tells [] of) :
    (plan >>= rest).Tells preface of := by
  -- This is `prepend` with an empty preface.
  have whole := before.prepend after (.inl rfl)
  rwa [List.append_nil] at whole

end Tells

end Plan

end AccessProbe
