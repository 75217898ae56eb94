import AccessProbe.Proofs.StepSequence

/-! A higher log level changes the log only, which has fewer records. -/

namespace AccessProbe

namespace Verbosity

variable {quiet loud : Verbosity}

/-- A verbosity shows every record that a lower one shows. -/
theorem shows_mono (fewer : quiet.rank ≤ loud.rank) {severity : Severity}
    (shown : quiet.shows severity = true) : loud.shows severity = true := by
  -- Severities are compared by rank.
  simp only [shows, decide_eq_true_eq] at shown ⊢
  exact Nat.le_trans shown fewer

/-- Filtering the log at a higher verbosity first makes no difference. -/
theorem kept_kept (fewer : quiet.rank ≤ loud.rank) (records : List LogRecord) :
    quiet.kept (loud.kept records) = quiet.kept records := by
  -- Two filters are one filter by both tests.
  unfold kept
  rw [List.filter_filter]
  congr 1
  funext record
  -- A record that passes the lower verbosity passes the higher one as well.
  cases shown : quiet.shows record.severity with
  | false => rfl
  | true => rw [shows_mono fewer shown, Bool.and_self]

end Verbosity

/-- The same state with the log filtered. -/
def Work.keptAt (work : Work) (quiet : Verbosity) : Work := { work with log := quiet.kept work.log }

namespace Work

variable {quiet loud : Verbosity} (work : Work)

@[simp] theorem report_keptAt : (work.keptAt quiet).report = work.report := rfl

@[simp] theorem wire_keptAt : (work.keptAt quiet).wire = work.wire := rfl

theorem keptAt_start (network : Network) (now : Int) (order : CookieOrder) (room : Option Nat) :
    (start network now order room).keptAt quiet = start network now order room := rfl

/-- Filtering the log and adding a record commute. -/
theorem note_keptAt (fewer : quiet.rank ≤ loud.rank) (record : LogRecord) :
    (work.keptAt quiet).note quiet record = (work.note loud record).keptAt quiet := by
  -- Both sides filter the log with the record at its end.
  obtain ⟨wire, log, report⟩ := work
  rw [Plan.note_eq, keptAt, Plan.note_eq, keptAt, Verbosity.kept_append, Verbosity.kept_kept fewer]

end Work

/-- A run at a lower verbosity is the run at the higher one with its log filtered. -/
theorem Plan.run_keptAt {α : Type} {quiet loud : Verbosity} (fewer : quiet.rank ≤ loud.rank) (plan : Plan α)
    (work : Work) : plan.run quiet (work.keptAt quiet) =
      ((plan.run loud work).1, (plan.run loud work).2.keptAt quiet) := by
  -- The levels take part in no step but the logging, so that the two runs stay together.
  induction plan generalizing work with
  | done value => rfl
  | stop cause => rfl
  | write text next ih =>
    -- Both reports are the same, so the string fits in both or in neither.
    cases fits : work.report.fits (Utf8.encode text.toList).length with
    | true =>
      simp only [run, Work.report_keptAt, fits, if_true]
      exact ih { work with report := work.report.append (Utf8.encode text.toList) }
    | false =>
      simp only [run, Work.report_keptAt, fits, Bool.false_eq_true, if_false]
      rfl
  | note record next ih =>
    simp only [run]
    rw [Work.note_keptAt work fewer]
    exact ih _
  | send client call next ih =>
    -- Both wires are the same, so both get the same reply.
    simp only [run, Work.wire_keptAt]
    exact ih _ { work with wire := (work.wire.send client call).2 }

namespace Probe

/-- A turn with its logs filtered. -/
def Turn.keptAt (turn : Turn) (quiet : Verbosity) : Turn :=
  { turn with before := turn.before.keptAt quiet, after := turn.after.keptAt quiet }

/-- Turns at a lower verbosity are those at the higher one with their logs filtered. -/
theorem turns_keptAt {quiet loud : Verbosity} (fewer : quiet.rank ≤ loud.rank) (probe : Probe)
    (steps : List Step) (work : Work) : probe.turns quiet steps (work.keptAt quiet) =
      (probe.turns loud steps work).map (Turn.keptAt · quiet) := by
  -- The turns correspond one by one.
  induction steps generalizing work with
  | nil => rfl
  | cons step rest ih =>
    -- The next turn starts with what this one leaves, which differs in the log only.
    simp only [turns, Plan.run_keptAt fewer, List.map_cons, ih]
    split
    · rfl
    · rfl

/-- The log level of the configuration has no influence on preparing a probe. -/
theorem prepare_logLevel (library : Library) (files : Files) (config : Configuration) (level : Verbosity)
    (mode : Mode) :
    prepare library files { config with logLevel := level } mode = prepare library files config mode := by
  -- No part of the client is made from it.
  have shown : Authentication.ofMode mode { config with logLevel := level } = .ofMode mode config := by
    cases mode <;> rfl
  simp only [prepare, prepareClient, buildClient, clientHeaders, shown, Configuration.credentials,
    Configuration.timeLimit]

/-- Two configurations that differ in their log levels prepare the same probe and take any steps in the same
way, with any report limit: every step has the same report, result and requests. At the lower verbosity the
log has exactly the records of the other one that it shows, in the same order, after the preparation and
before and after every step. -/
theorem level_only_thins_log (library : Library) (files : Files) {config : Configuration} {level : Verbosity}
    (lower : level.rank ≤ config.logLevel.rank) (mode : Mode) (network : Network) (time : Int)
    (order : CookieOrder) (room : Option Nat) :
    let loud := (prepare library files config mode).run config.logLevel (.start network time order room)
    let quiet := (prepare library files { config with logLevel := level } mode).run level
      (.start network time order room)
    quiet = (loud.1, { loud.2 with log := loud.2.log.filter fun record => level.shows record.severity }) ∧
      ∀ probe steps, loud.1 = .ok probe →
        List.Forall₂ (fun turn other =>
          turn.step = other.step ∧ turn.result = other.result ∧
            turn.after.report = other.after.report ∧ turn.after.wire = other.after.wire ∧
            turn.after.log = other.after.log.filter fun record => level.shows record.severity)
          (probe.turns level steps quiet.2) (probe.turns config.logLevel steps loud.2) := by
  -- Both runs are related by `Plan.run_keptAt` and `turns_keptAt`.
  intro loud quiet
  have prepared : quiet = (loud.1, loud.2.keptAt level) := by
    show (prepare library files { config with logLevel := level } mode).run level _ = _
    rw [prepare_logLevel, ← Work.keptAt_start]
    exact Plan.run_keptAt lower _ _
  refine ⟨prepared, fun probe steps _ => ?_⟩
  rw [prepared, turns_keptAt lower, List.forall₂_map_left_iff, List.forall₂_same]
  exact fun turn _ => ⟨rfl, rfl, rfl, rfl, rfl⟩

/-- A session that ends at its second request logs four records at trace, and only the warning at warn. -/
theorem warnings_outlive_lower_level :
    let config : Configuration := ⟨Url.loopback, "agent", "secret", none, none, .trace⟩
    let work : Work := .start (.scripted false [⟨200, [], [0x6F, 0x6B], none⟩]) 0 .asKept (some 40)
    let probe : Probe := ⟨Url.loopback, ⟨"agent", "secret"⟩,
      ⟨[("user-agent", userAgent), ("x-cenarius-token", "YWdlbnQgc2VjcmV0")], none, .plain⟩⟩
    let loud := (prepare .plain [] config .token).run .trace work
    let quiet := (prepare .plain [] { config with logLevel := .warn } .token).run .warn work
    Verbosity.warn.rank ≤ config.logLevel.rank ∧ loud.1 = .ok probe ∧
      quiet = (loud.1, { loud.2 with log := loud.2.log.filter fun record => Verbosity.warn.shows record.severity }) ∧
      List.Forall₂ (fun turn other =>
          turn.step = other.step ∧ turn.result = other.result ∧
            turn.after.report = other.after.report ∧ turn.after.wire = other.after.wire ∧
            turn.after.log = other.after.log.filter fun record => Verbosity.warn.shows record.severity)
        (probe.turns .warn [.session] quiet.2) (probe.turns .trace [.session] loud.2) ∧
      (probe.turns .trace [.session] loud.2).map (·.after.log.map LogRecord.severity) =
        [[.warn, .debug, .debug, .debug]] := by
  intro config work probe loud quiet
  have lower : Verbosity.warn.rank ≤ config.logLevel.rank := by decide
  have ready : clientHeaders [] config (.ofMode .token config) = .ok probe.client.defaults := by decide +kernel
  have built : buildClient .plain [] config (.ofMode .token config) = .ok probe.client :=
    buildClient_eq_ok_iff.mpr ⟨_, ready, rfl, rfl⟩
  obtain ⟨log, ran⟩ := run_prepare_ok (.empty (some 40)) built
  have prepared : loud.1 = .ok probe := congrArg Prod.fst ran
  have told : (probe.turns .trace [.session] loud.2).map (·.after.log.map LogRecord.severity) =
      [[.warn, .debug, .debug, .debug]] := by decide +kernel
  obtain ⟨same, steps⟩ := level_only_thins_log .plain [] lower .token
    (.scripted false [⟨200, [], [0x6F, 0x6B], none⟩]) 0 .asKept (some 40)
  have taken := steps probe [.session] prepared
  with_reducible exact ⟨lower, prepared, same, taken, told⟩

end Probe

end AccessProbe
