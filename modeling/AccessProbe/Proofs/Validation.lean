import AccessProbe.CommandLine.Program
import AccessProbe.Proofs.RequestGroups

/-! Invalid settings and an invalid header file end the program before its first request. -/

namespace AccessProbe

/-- The faults of a header file that refuse it. -/
inductive HeaderFault (files : Files) (path : String) : Prop where
  /-- The file cannot be opened. -/
  | opening (cause : FileError) (missing : files.entry path = .error cause)
  /-- The content is no mapping of strings to strings. -/
  | parsing (entry : FileEntry) (opened : files.entry path = .ok entry) (cause : ContentError)
    (broken : Configuration.readContent entry (fun bytes => (Yaml.Text.ofBytes bytes).read Yaml.readStrings) =
      .error cause)
  /-- A key is no name of a header field. -/
  | name (entries : List (String × String)) (read : headerEntries files (some path) = .ok entries)
    (entry : String × String) (member : entry ∈ entries) (wrong : headerName? entry.1 = none)
  /-- A value is no value of a header field. -/
  | value (entries : List (String × String)) (read : headerEntries files (some path) = .ok entries)
    (entry : String × String) (member : entry ∈ entries) (wrong : isHeaderValue entry.2 = false)

/-- An entry is refused if and only if its name or its value is. -/
theorem addHeader_eq_error_iff {headers : Headers} {entry : String × String} :
    (∃ cause, addHeader headers entry = .error cause) ↔
      headerName? entry.1 = none ∨ isHeaderValue entry.2 = false := by
  -- The name is checked first, and the value only behind a valid name.
  unfold addHeader
  cases headerName? entry.1 with
  | none => simp
  | some name => cases isHeaderValue entry.2 <;> simp

/-- A list of entries is refused if and only if one of its entries is, whatever header fields there are
before. -/
theorem addHeaders_eq_error_iff {headers : Headers} {entries : List (String × String)} :
    (∃ cause, entries.foldlM addHeader headers = .error cause) ↔
      ∃ entry ∈ entries, headerName? entry.1 = none ∨ isHeaderValue entry.2 = false := by
  -- By induction over the entries: the first one is refused, or the others decide.
  induction entries generalizing headers with
  | nil => simp [pure, Except.pure]
  | cons entry rest ih =>
    rw [List.foldlM_cons]
    cases added : addHeader headers entry with
    | error cause =>
      -- The first entry ends the loop, so that the others are not looked at.
      have wrong := addHeader_eq_error_iff.mp ⟨cause, added⟩
      simp [Bind.bind, Except.bind, wrong]
    | ok next =>
      have right : ¬ (headerName? entry.1 = none ∨ isHeaderValue entry.2 = false) := by
        intro wrong
        obtain ⟨cause, refused⟩ := addHeader_eq_error_iff.mpr wrong
        cases added.symm.trans refused
      simp only [Bind.bind, Except.bind, ih, List.mem_cons, exists_eq_or_imp, right, false_or]

/-- A header file is refused if and only if it has one of the four faults. -/
theorem defaultHeaders_eq_error_iff {files : Files} {path : String} :
    (∃ cause, defaultHeaders files (some path) = .error cause) ↔ HeaderFault files path := by
  cases read : headerEntries files (some path) with
  | ok entries =>
    -- The file is a mapping, so that only its entries can be refused.
    rw [defaultHeaders_eq read, headersOf, addHeaders_eq_error_iff]
    constructor
    · rintro ⟨entry, member, name | value⟩
      · exact .name entries read entry member name
      · exact .value entries read entry member value
    · rintro (⟨cause, missing⟩ | ⟨entry, opened, cause, broken⟩ | ⟨others, same, entry, member, wrong⟩ |
        ⟨others, same, entry, member, wrong⟩)
      · simp [headerEntries, missing] at read
      · simp [headerEntries, opened, broken] at read
      · obtain rfl := Except.ok.inj (read.symm.trans same)
        exact ⟨entry, member, .inl wrong⟩
      · obtain rfl := Except.ok.inj (read.symm.trans same)
        exact ⟨entry, member, .inr wrong⟩
  | error cause =>
    have whole : defaultHeaders files (some path) = .error cause := by
      rw [defaultHeaders, read]
      rfl
    refine iff_of_true ⟨cause, whole⟩ ?_
    unfold headerEntries at read
    cases opened : files.entry path with
    | error missing => exact .opening missing opened
    | ok entry =>
      simp only [opened] at read
      split at read
      · rename_i broken
        exact .parsing entry opened _ broken
      · cases read

section Preparation

variable {library : Library} {files : Files} {config : Configuration} {cause : HeaderError}
    {verbosity : Verbosity} {wire : Wire}
  {log : List LogRecord} {report : Report}

/-- Without default headers the builder is not called. -/
theorem buildClient_eq_error (library : Library) (fails : defaultHeaders files config.header = .error cause)
    (mode : Mode) : buildClient library files config (.ofMode mode config) = .error (.headers cause) := by
  rw [buildClient, clientHeaders_eq_error fails mode]
  rfl

/-- A session, token run or registration without default headers ends with the error of the header file. It
sends and reports nothing. -/
theorem Probe.run_prepare_error {α : Type} (fails : defaultHeaders files config.header = .error cause)
    (mode : Mode) (rest : Probe → Plan α) :
    (prepare library files config mode >>= rest).run verbosity ⟨wire, log, report⟩ =
      (.error (.failed (.client (.headers cause))),
        ⟨wire, log ++ verbosity.kept (Verification.warnings config (.ofMode mode config)), report⟩) := by
  -- The client is the first step behind the warnings, and it fails.
  rw [Plan.run_bind, prepare, Plan.run_bind, Verification.run_prepareClient, buildClient_eq_error library fails mode]
  rfl

/-- A verification without default headers ends with the error of the header file, behind its banner. -/
theorem Verification.run_verify_error {written : List UInt8}
    (fails : defaultHeaders files config.header = .error cause) :
    (verify library files config).run verbosity ⟨wire, log, ⟨written, none⟩⟩ =
      (.error (.failed (.initialization (.headers cause))),
        ⟨wire, log ++ verbosity.kept (warnings config (.ofMode .token config)),
          ⟨written ++ Utf8.encode banner.toList, none⟩⟩) := by
  -- The banner is written first, then the client fails as for every task.
  rw [verify_eq, Plan.run_write, Plan.run_bind, run_prepareClient, buildClient_eq_error library fails .token]
  rfl

end Preparation

namespace CommandLine

/-- The text that a task writes before it builds its client. -/
def Task.opening : Task → String
  | .verifyAuth => Verification.banner
  | .session | .token | .register | .list _ => ""

/-- The error messages of a task whose header file is refused. -/
def Task.faultChain (cause : HeaderError) : Task → List String
  | .verifyAuth => "Could not initialize authentication" :: cause.chain
  | .session | .token | .register | .list _ => cause.chain

/-- The records of a task before it builds its client: the configuration, and the warning of token mode. -/
def Task.firstRecords (task : Task) (config : Configuration) : List LogRecord :=
  configurationRecord config :: Verification.warnings config (.ofMode task.mode config)

/-- A task without default headers sends nothing. It logs its first records and writes its opening text. -/
theorem Task.run_announced_error {library : Library} {files : Files} {config : Configuration} {cause : HeaderError}
    (fails : defaultHeaders files config.header = .error cause) (task : Task) (verbosity : Verbosity)
    (wire : Wire) : ∃ error, error.chain = task.faultChain cause ∧
      (task.announced library files config).run verbosity ⟨wire, [], .empty none⟩ =
        (.error (.failed error), ⟨wire, verbosity.kept (task.firstRecords config),
          ⟨Utf8.encode task.opening.toList, none⟩⟩) := by
  -- The log is empty at the start, so that the first records are all of it.
  have told : verbosity.kept (task.firstRecords config) = [] ++ verbosity.kept [configurationRecord config] ++
      verbosity.kept (Verification.warnings config (.ofMode task.mode config)) := by
    rw [List.nil_append, ← Verbosity.kept_append]
    rfl
  rw [announced, Plan.run, Report.empty, Plan.note_eq, told]
  cases task with
  | session => exact ⟨_, rfl, Probe.run_prepare_error fails .session _⟩
  | token => exact ⟨_, rfl, Probe.run_prepare_error fails .token _⟩
  | register => exact ⟨_, rfl, Probe.run_prepare_error fails .none _⟩
  | list kind => exact ⟨_, rfl, Probe.run_prepare_error fails .token fun probe => probe.list kind⟩
  | verifyAuth =>
    refine ⟨.initialization (.headers cause), rfl, ?_⟩
    show (Verification.verify library files config).run _ _ = _
    rw [Verification.run_verify_error fails]
    simp only [List.nil_append, opening, mode]

/-- For every task, settings that do not load end the program with their error: nothing is written, nothing is
logged and no request is sent. With settings that load, a header file that cannot be opened, that is no
mapping of strings, or that has an invalid name or an invalid value ends it with its own error, and again no
request is sent. What is written by then is the banner of a verification, and what is logged are the first
records of the task. So a server sees a request only if the settings and the header file are in order. -/
theorem nothing_sent_before_validation {world : World} {args : List String} {task : Task} {given : Settings}
    (accepted : parse world.env args = .ok (.run task given)) :
    let outcome := execute world args
    let untouched : Wire := ⟨world.network, .empty world.now world.library.order, []⟩
    (∀ error, Configuration.load world.files given = .error error →
      outcome = ⟨some 1, [], errorText error.chain, untouched⟩) ∧
    (∀ config path, Configuration.load world.files given = .ok config → config.header = some path →
      HeaderFault world.files path → ∃ cause, defaultHeaders world.files (some path) = .error cause ∧
        outcome = ⟨some 1, Utf8.encode task.opening.toList,
          logText (config.logLevel.kept (task.firstRecords config)) ++ errorText (task.faultChain cause),
          untouched⟩) ∧
    (outcome.wire.seen ≠ [] → ∃ config headers, Configuration.load world.files given = .ok config ∧
      defaultHeaders world.files config.header = .ok headers) := by
  -- The two ways to fail are computed once, as `refused` and `unready`; each part then uses one of them.
  intro outcome untouched
  have performed : outcome = perform world task given := by
    simp only [outcome, execute, accepted]
  have refused : ∀ error, Configuration.load world.files given = .error error →
      outcome = ⟨some 1, [], errorText error.chain, untouched⟩ := by
    intro error failed
    rw [performed, perform, failed]
    rfl
  have unready : ∀ config cause, Configuration.load world.files given = .ok config →
      defaultHeaders world.files config.header = .error cause →
      outcome = ⟨some 1, Utf8.encode task.opening.toList,
        logText (config.logLevel.kept (task.firstRecords config)) ++ errorText (task.faultChain cause),
        untouched⟩ := by
    intro config cause loaded fails
    obtain ⟨error, chain, ran⟩ := task.run_announced_error fails config.logLevel untouched
    rw [performed, perform, loaded, ← chain]
    exact congrArg conclude ran
  refine ⟨refused, fun config path loaded given fault => ?_, fun asked => ?_⟩
  · obtain ⟨cause, fails⟩ := defaultHeaders_eq_error_iff.mpr fault
    exact ⟨cause, fails, unready config cause loaded (by rw [given]; exact fails)⟩
  · -- A refused configuration or header file would have left no request to see.
    cases loaded : Configuration.load world.files given with
    | error error =>
      rw [refused error loaded] at asked
      exact absurd rfl asked
    | ok config =>
      cases fields : defaultHeaders world.files config.header with
      | error cause =>
        rw [unready config cause loaded fields] at asked
        exact absurd rfl asked
      | ok headers => exact ⟨config, headers, rfl, fields⟩

/-- A verification whose header file has an invalid name writes its banner and ends, and the server sees no
request. -/
theorem wrong_header_stops_verification :
    -- The file says: a b: c
    let files : Files := [("h", .content [0x61, 0x20, 0x62, 0x3A, 0x20, 0x63])]
    let network : Network := .scripted false [⟨200, [], [], none⟩]
    let world : World := ⟨[], files, network, 0, .plain⟩
    let args := ["verify-auth", "--header=h", "--log-level=error"]
    let outcome := execute world args
    (∃ given, parse world.env args = .ok (.run .verifyAuth given)) ∧ HeaderFault files "h" ∧
      outcome.exitCode = some 1 ∧ outcome.wire = ⟨network, .empty 0 .asKept, []⟩ ∧
      outcome.output = Utf8.encode Verification.banner.toList ∧
      outcome.diagnostics = "Error: Could not initialize authentication\n\nCaused by:\n" ++
        "    0: Can't parse a b as header name\n    1: invalid HTTP header name\n" := by
  -- The configuration and the fault are computed, the outcome follows from the theorem.
  intro files network world args outcome
  let given : Settings := ⟨none, none, none, none, some "h", none, some .error⟩
  let target : Url := ⟨"http", "", none, some (.domain "localhost"), some 8080, .segments [""], none, none⟩
  let config : Configuration := ⟨target, "python3", "python3password", some "h", none, .error⟩
  have accepted : parse world.env args = .ok (.run .verifyAuth given) := by decide +kernel
  have loaded : Configuration.load world.files given = .ok config := by decide +kernel
  have fault : HeaderFault world.files "h" :=
    .name [("a b", "c")] (by decide +kernel) ("a b", "c") (.head _) (by decide +kernel)
  obtain ⟨cause, fails, ended⟩ := (nothing_sent_before_validation accepted).2.1 config "h" loaded rfl fault
  -- Only one thing is wrong with the file.
  obtain rfl : .name "a b" = cause := by
    have wrong : defaultHeaders world.files (some "h") = .error (.name "a b") := by decide +kernel
    exact Except.error.inj (wrong.symm.trans fails)
  rw [show outcome = _ from ended]
  exact ⟨⟨given, accepted⟩, fault, rfl, rfl, by simp only [Task.opening], by decide +kernel⟩

end CommandLine

end AccessProbe
