import AccessProbe.Proofs.Endings
import AccessProbe.Proofs.PlanLikeness
import AccessProbe.Proofs.RequestGroups

/-! A run whose report is limited to some bytes is the start of the run without limit. -/

namespace AccessProbe

namespace Plan

variable {α : Type} {verbosity : Verbosity}

/-- How a run with a report limit compares with one without. -/
structure Limits (room : Nat) (written report : List UInt8) (free limited : Except Unfinished α × Work) :
    Prop where
  /-- The run without limit writes this report. -/
  whole : free.2.report.written = written ++ report
  /-- If the report fits, both runs do and return the same. -/
  enough : report.length ≤ room → limited =
    (free.1, { free.2 with report := ⟨written ++ report, some (room - report.length)⟩ })
  /-- If not, the limited run fails, and its report, requests and log are the start of the others. -/
  short : room < report.length → limited.1 = .error (.failed .output) ∧
    limited.2.report.written = written ++ report.take room ∧
    limited.2.wire.seen <+: free.2.wire.seen ∧ limited.2.log <+: free.2.log

/-- A run only appends to the log. -/
theorem log_run (plan : Plan α) (wire : Wire) (log : List LogRecord) (written : List UInt8) :
    log <+: (plan.run verbosity ⟨wire, log, ⟨written, none⟩⟩).2.log := by
  -- By `run_frame`, a run without limit does not depend on the log before it.
  rw [run_frame]
  exact List.prefix_append _ _

/-- A run only appends to the report. -/
theorem written_run (plan : Plan α) (wire : Wire) (log : List LogRecord) (written : List UInt8) :
    ∃ report, (plan.run verbosity ⟨wire, log, ⟨written, none⟩⟩).2.report.written = written ++ report := by
  rw [run_frame]
  exact ⟨_, rfl⟩

/-- A string that fits is written, and takes its part of the limit. -/
theorem run_write_enough {text : String} {next : Plan α} {wire : Wire} {log : List LogRecord}
    {written : List UInt8} {room : Nat} (fits : (Utf8.encode text.toList).length ≤ room) :
    (Plan.write text next).run verbosity ⟨wire, log, ⟨written, some room⟩⟩ =
      next.run verbosity ⟨wire, log, ⟨written ++ Utf8.encode text.toList,
        some (room - (Utf8.encode text.toList).length)⟩⟩ := by
  -- The whole string is taken.
  simp [run, Report.fits, Report.append, fits, List.take_of_length_le fits]

/-- A string that does not fit is cut off at the limit and ends the run. -/
theorem run_write_short {text : String} {next : Plan α} {wire : Wire} {log : List LogRecord}
    {written : List UInt8} {room : Nat} (short : room < (Utf8.encode text.toList).length) :
    (Plan.write text next).run verbosity ⟨wire, log, ⟨written, some room⟩⟩ =
      (.error (.failed .output), ⟨wire, log, ⟨written ++ (Utf8.encode text.toList).take room,
        some (room - (Utf8.encode text.toList).length)⟩⟩) := by
  -- The test for the limit fails after writing what fits.
  simp [run, Report.fits, Report.append, Nat.not_le.mpr short]

/-- A string that fits may be written first. -/
theorem Limits.prepend {room : Nat} {written bytes report : List UInt8}
    {free limited : Except Unfinished α × Work} (fits : bytes.length ≤ room)
    (rest : Limits (room - bytes.length) (written ++ bytes) report free limited) :
    Limits room written (bytes ++ report) free limited := by
  -- The comparison of the rest is shifted by the length of the string.
  refine ⟨by rw [rest.whole, List.append_assoc], fun enough => ?_, fun short => ?_⟩
  · rw [List.length_append] at enough
    rw [rest.enough (by omega), List.append_assoc, List.length_append, Nat.sub_add_eq]
  · rw [List.length_append] at short
    obtain ⟨failed, wrote, seen, told⟩ := rest.short (by omega)
    -- The bytes of the string are all within the limit.
    have first : (bytes ++ report).take room = bytes ++ report.take (room - bytes.length) := by
      rw [List.take_append, List.take_of_length_le fits]
    exact ⟨failed, by rw [wrote, first, List.append_assoc], seen, told⟩

/-- A run with a report limit is the start of the run without one, or all of it. -/
theorem run_limits (plan : Plan α) (wire : Wire) (log : List LogRecord) (written : List UInt8) (room : Nat) :
    ∃ report, Limits room written report (plan.run verbosity ⟨wire, log, ⟨written, none⟩⟩)
      (plan.run verbosity ⟨wire, log, ⟨written, some room⟩⟩) := by
  -- Induction on the plan; only where it writes may the two runs part.
  induction plan generalizing wire log written room with
  | done value => exact ⟨[], by simp [run], fun _ => by simp [run], fun short => by simp at short⟩
  | stop cause => exact ⟨[], by simp [run], fun _ => by simp [run], fun short => by simp at short⟩
  | note record next ih =>
    simp only [run, note_eq]
    exact ih _ _ _ _
  | send client call next ih => exact ih _ _ _ _ _
  | write text next ih =>
    rw [run_write]
    rcases Nat.lt_or_ge room (Utf8.encode text.toList).length with short | fits
    · -- The limit is reached within this string; the run without limit goes on and only appends.
      obtain ⟨report, wrote⟩ := written_run next wire log (written ++ Utf8.encode text.toList)
      have full : (Utf8.encode text.toList ++ report).take room = (Utf8.encode text.toList).take room :=
        List.take_append_of_le_length (Nat.le_of_lt short)
      refine ⟨Utf8.encode text.toList ++ report, by rw [wrote, List.append_assoc], fun enough => ?_,
        fun _ => ?_⟩
      · rw [List.length_append] at enough
        omega
      · rw [run_write_short short, full]
        exact ⟨rfl, rfl, seen_run next ⟨wire, log, ⟨_, none⟩⟩, log_run next wire log _⟩
    · obtain ⟨report, rest⟩ := ih wire log (written ++ Utf8.encode text.toList)
        (room - (Utf8.encode text.toList).length)
      rw [run_write_enough fits]
      exact ⟨_, rest.prepend fits⟩

end Plan

namespace CommandLine.Task

/-- No task stops with the error of a report limit by itself, and none waits for ever with a time limit. -/
theorem planIn_ends (task : Task) (mode : Mode) (library : Library) (files : Files) (config : Configuration) :
    (task.planIn mode library files config).Ends (fun _ => True)
      (Unfinished.IsOf (· ≠ .output) config.timeLimit) := by
  -- The endings of each task are known; none of them is that error.
  have narrow {errors : ProbeError → Prop} (others : ∀ error, errors error → error ≠ .output) :
      ∀ cause, Unfinished.IsOf errors config.timeLimit cause →
        Unfinished.IsOf (· ≠ .output) config.timeLimit cause := by
    intro cause kind
    cases cause with
    | failed error => exact others error kind
    | waiting => exact kind
  have probing : ∀ error, Probe.mayEnd error = true → error ≠ .output := by
    rintro error kind rfl
    cases kind
  have verifying : ∀ error, Verification.mayEnd config.logLevel error = true → error ≠ .output := by
    rintro error kind rfl
    cases kind
  have prepared := Probe.prepare_ends library files config mode
  -- A prepared probe has the time limit of the configuration.
  have probes {work : Probe → Plan Unit}
      (ends : ∀ probe, (work probe).Ends (fun _ => True) (Probe.mayStop probe.client.timeLimit)) :
      (Probe.prepare library files config mode >>= work).Ends (fun _ => True)
        (Unfinished.IsOf (· ≠ .output) config.timeLimit) :=
    (prepared.bind fun probe limited => limited ▸ ends probe).imp (narrow probing)
  cases task with
  | session => exact probes Probe.session_ends
  | token => exact probes Probe.token_ends
  | register => exact probes Probe.register_ends
  | list kind => exact probes fun probe => probe.list_ends kind
  | verifyAuth => exact (Verification.verify_ends library files config).imp (narrow verifying)

/-- A task with a report limit does the same as without one as long as the report fits. If the report fits,
both runs are the same. If not, the report is cut off at the limit, the task fails with that error and not
with one of its own, and the requests and the log up to then are the start of those without limit. -/
theorem limit_keeps_start_of_report (task : Task) (mode : Mode) (library : Library) (files : Files)
    (config : Configuration) (verbosity : Verbosity) (wire : Wire) (log : List LogRecord) (written : List UInt8)
    (room : Nat) :
    let plan := task.planIn mode library files config
    let free := plan.run verbosity ⟨wire, log, ⟨written, none⟩⟩
    let limited := plan.run verbosity ⟨wire, log, ⟨written, some room⟩⟩
    ∃ report, free.2.report.written = written ++ report ∧
      (report.length ≤ room → limited.1 = free.1 ∧
        limited.2.report.written = written ++ report ∧
        limited.2.wire = free.2.wire ∧ limited.2.log = free.2.log) ∧
      (room < report.length →
        (∃ error, limited.1 = .error (.failed error) ∧ error.chain = ["output limit reached"]) ∧
        limited.1 ≠ free.1 ∧
        limited.2.report.written = written ++ report.take room ∧
        limited.2.wire.seen <+: free.2.wire.seen ∧ limited.2.log <+: free.2.log) := by
  -- By `Plan.run_limits`; what is left is that the error of the limit is no error of the task itself.
  intro plan free limited
  obtain ⟨report, whole, enough, short⟩ := Plan.run_limits plan wire log written room
  refine ⟨report, whole, fun fits => ?_, fun full => ?_⟩
  · rw [show limited = _ from enough fits]
    exact ⟨rfl, rfl, rfl, rfl⟩
  · obtain ⟨failed, wrote, seen, told⟩ := short full
    refine ⟨⟨.output, failed, rfl⟩, fun same => ?_, wrote, seen, told⟩
    -- Without limit the task may fail as well, but never with this error.
    have own := (task.planIn_ends mode library files config).cause_of_run (same.symm.trans failed)
    exact own rfl

/-- A limit within the second of three lines keeps the third request from being sent. -/
theorem limit_within_second_line :
    let config : Configuration := ⟨Url.loopback, "agent", "secret", none, none, .error⟩
    let wire : Wire := ⟨.scripted false (List.replicate 3 ⟨200, [], [0x6F, 0x6B], none⟩), .empty 0 .asKept, []⟩
    let limited := (planIn .token .token .plain [] config).run .error ⟨wire, [], ⟨[], some 9⟩⟩
    (∃ error, limited.1 = .error (.failed error) ∧ error.chain = ["output limit reached"]) ∧
      limited.2.report.written = Utf8.encode ("200 ok\n" ++ "20").toList ∧ limited.2.wire.seen.length = 2 := by
  intro config wire limited
  obtain ⟨report, whole, _, short⟩ :=
    limit_keeps_start_of_report .token .token .plain [] config .error wire [] [] 9
  -- Without a limit the report has three lines.
  have lines : report = Utf8.encode ("200 ok\n" ++ "200 ok\n" ++ "200 ok\n").toList := by
    rw [List.nil_append] at whole
    rw [← whole]
    decide +kernel
  rw [lines] at short
  obtain ⟨failed, _, wrote, _⟩ := short (by decide +kernel)
  refine ⟨failed, ?_, by decide +kernel⟩
  rw [wrote]
  decide +kernel

end CommandLine.Task

end AccessProbe
