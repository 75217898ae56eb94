import AccessProbe.Proofs.HeaderPrecedence
import AccessProbe.Proofs.RequestLog

/-! A task that sends the token to an HTTP server logs one warning, before its first request. -/

namespace AccessProbe

/-- Whether a request has a header field `x-cenarius-token`, with the user's token or any other value. -/
def Request.HasTokenField (request : Request) : Prop :=
  request.headers.values "x-cenarius-token" ≠ []

/-- Whether a record is the warning about the token header over plain http. -/
def LogRecord.WarnsOfToken (record : LogRecord) : Prop :=
  record.severity = .warn ∧
    "Sending credentials in the X-Cenarius-Token header over plain http".toList <+: record.message.toList

instance (request : Request) : Decidable request.HasTokenField :=
  inferInstanceAs (Decidable (_ ≠ _))

instance (record : LogRecord) : Decidable record.WarnsOfToken :=
  inferInstanceAs (Decidable (_ ∧ _))

/-- The record `plainTokenRecord` is such a warning. -/
theorem warnsOfToken_plainTokenRecord (target : Url) : (plainTokenRecord target).WarnsOfToken := by
  -- The message opens with the fixed text, the URL of the target follows it.
  have parts : "Sending credentials in the " ++ tokenHeader ++ " header over plain http to " =
      "Sending credentials in the X-Cenarius-Token header over plain http" ++ " to " := by decide
  refine ⟨rfl, ?_⟩
  simp only [plainTokenRecord]
  rw [parts, String.toList_append, String.toList_append, List.append_assoc]
  exact List.prefix_append _ _

/-- A record at warn passes a log level that shows warn, between what is kept before and after it. -/
theorem Verbosity.kept_warning {verbosity : Verbosity} {record : LogRecord} (shown : verbosity.shows .warn)
    (warns : record.severity = .warn) (before after : List LogRecord) :
    verbosity.kept (before ++ record :: after) = verbosity.kept before ++ record :: verbosity.kept after := by
  rw [kept_append]
  simp [kept, warns, shown]

namespace CommandLine.Task

variable {library : Library} {files : Files} {config : Configuration} {task : Task}

/-- Every task sends in its own mode. -/
theorem modeIn_mode (task : Task) : task.modeIn task.mode = task.mode := by
  cases task <;> rfl

/-- The log of a task is the configuration record, its preface and then the records of each request in turn.
-/
theorem announced_tells (accepted : config.target.IsTarget) (task : Task) (library : Library) (files : Files) :
    (task.announced library files config).Tells (configurationRecord config :: task.preface task.mode config)
      task.TellsOf := by
  -- One record more in front of what `planIn_tells` gives.
  rw [announced, plan_eq]
  exact .note _ (planIn_tells accepted task task.mode library files)

/-- The configuration record sends nothing, so that the requests are those of the mode. -/
theorem announced_sendsOnly (task : Task) (library : Library) (files : Files) (config : Configuration) :
    (task.announced library files config).SendsOnly (config.Makes library files task.mode) := by
  -- One record more in front of the plan of the task.
  have only := task.planIn_sendsOnly task.mode library files config
  rw [modeIn_mode] at only
  rw [announced, plan_eq]
  exact .note _ only

/-- No record about a request is a warning. -/
theorem harmless_groups {attempts : List Attempt} {groups : List (List LogRecord)}
    (grouped : List.Forall₂ task.TellsOf attempts groups) : ∀ record ∈ groups.flatten, record.severity ≠ .warn := by
  -- Group by group. Every task logs its requests alike, the verification only the answers.
  induction grouped with
  | nil => exact nofun
  | cons tells _ ih =>
    rw [List.flatten_cons]
    refine List.forall_mem_append.mpr ⟨?_, ih⟩
    cases task with
    | session => exact tells.harmless
    | token => exact tells.harmless
    | register => exact tells.harmless
    | list kind => exact tells.harmless
    | verifyAuth =>
      obtain rfl := tells
      exact nofun

/-- No remark of a task is a warning. -/
theorem harmless_remarks (task : Task) : ∀ record ∈ task.remarks, record.severity ≠ .warn := by
  -- Every remark is at the one level that `severity_remarks` names.
  intro record member warns
  rw [severity_remarks task record member] at warns
  cases warns

/-- The configuration record is no warning. -/
theorem harmless_configurationRecord (config : Configuration) : (configurationRecord config).severity ≠ .warn := nofun

/-- In token mode the warning comes first if the target has the scheme http. -/
theorem preface_of_token (http : config.target.scheme = "http") (shows : task.mode = .token) :
    task.preface task.mode config = plainTokenRecord config.target :: task.remarks := by
  -- Both conditions of `showsTokenPlainly` hold.
  rw [preface, modeIn_mode, shows]
  simp [Verification.warnings, Authentication.ofMode, showsTokenPlainly, http]

/-- There is no warning outside token mode, nor for a target with the scheme https. -/
theorem preface_of_no_token (hides : task.mode ≠ .token ∨ config.target.scheme ≠ "http") :
    task.preface task.mode config = task.remarks := by
  -- Only token mode looks at the scheme, the other modes have no token to warn of.
  rw [preface, modeIn_mode]
  cases mode : task.mode with
  | token =>
    have secure : config.target.scheme ≠ "http" := hides.resolve_left fun others => others mode
    simp [Verification.warnings, Authentication.ofMode, showsTokenPlainly, secure]
  | session => rfl
  | none => rfl

section Run

variable {verbosity : Verbosity} {tunnels : Bool} {answers : List Answer} {now : Int} {order : CookieOrder}
  {limit : Option Nat} {request : Request}

/-- In token mode the log of a run that has sent a request to an HTTP target has the warning once, and only
the configuration record before it. -/
theorem warns_once (accepted : config.target.IsTarget) (http : config.target.scheme = "http")
    (shown : verbosity.shows .warn) (shows : task.mode = .token)
    (seen : request ∈ ((task.announced library files config).run verbosity
      (.start (.scripted tunnels answers) now order limit)).2.wire.seen) :
    ∃ before after, ((task.announced library files config).run verbosity
        (.start (.scripted tunnels answers) now order limit)).2.log =
        before ++ plainTokenRecord config.target :: after ∧
      (∀ other ∈ before ++ after, other.severity ≠ .warn) ∧ ∀ other ∈ before, other = configurationRecord config := by
  obtain ⟨first, groups, told⟩ := announced_tells accepted task library files verbosity
    (.start (.scripted tunnels answers) now order limit)
  rw [preface_of_token http shows] at told
  -- A request was sent, so that all records in front of the first one are there.
  have whole : first = configurationRecord config :: plainTokenRecord config.target :: task.remarks := by
    refine told.complete.resolve_right fun idle => ?_
    rw [Plan.wire_eq_of_attempts idle.1] at seen
    cases seen
  refine ⟨verbosity.kept [configurationRecord config], verbosity.kept (task.remarks ++ groups.flatten), ?_, ?_, ?_⟩
  · rw [told.log, whole]
    exact verbosity.kept_warning shown rfl [configurationRecord config] _
  · intro other member
    rw [← Verbosity.kept_append] at member
    rcases List.mem_cons.mp (List.mem_of_mem_filter member) with rfl | later
    · exact harmless_configurationRecord config
    · exact List.forall_mem_append.mpr ⟨harmless_remarks task, harmless_groups told.grouped⟩ other later
  · exact fun other member => List.mem_singleton.mp (List.mem_of_mem_filter member)

/-- Outside token mode, and for an HTTPS target, no record of the run is a warning. -/
theorem never_warns (accepted : config.target.IsTarget) (library : Library) (files : Files) (verbosity : Verbosity)
    (work : Work) (quiet : ∀ record ∈ work.log, record.severity ≠ .warn)
    (hides : task.mode ≠ .token ∨ config.target.scheme ≠ "http") :
    ∀ record ∈ ((task.announced library files config).run verbosity work).2.log, record.severity ≠ .warn := by
  obtain ⟨first, groups, told⟩ := announced_tells accepted task library files verbosity work
  rw [preface_of_no_token hides] at told
  -- A record is the configuration record, a remark, or about one of the requests.
  intro record member
  rw [told.log] at member
  rcases List.mem_append.mp member with earlier | now
  · exact quiet record earlier
  rcases List.mem_append.mp (List.mem_of_mem_filter now) with early | late
  · rcases List.mem_cons.mp (told.begins.subset early) with rfl | remarked
    · exact harmless_configurationRecord config
    · exact harmless_remarks task record remarked
  · exact harmless_groups told.grouped record late

/-- Outside token mode a request has a token field only if the header file has an entry for it. -/
theorem exists_entry_of_seen (hides : task.mode ≠ .token)
    (seen : request ∈ ((task.announced library files config).run verbosity
      (.start (.scripted tunnels answers) now order limit)).2.wire.seen) (has : request.HasTokenField) :
    ∃ entries, headerEntries files config.header = .ok entries ∧
      ∃ entry ∈ entries, headerName? entry.1 = some "x-cenarius-token" := by
  by_contra undefined
  push Not at undefined
  obtain ⟨groups, trails, sees⟩ := (announced_sendsOnly task library files config).trails verbosity
    (show (Work.start (.scripted tunnels answers) now order limit).wire.network = .scripted tunnels answers from rfl)
  -- A request stands in a group that starts from the client's default headers, and none of these has the name.
  rw [sees.seen] at seen
  obtain ⟨sighting, member, rfl⟩ := List.mem_map.mp seen
  obtain ⟨group, isGroup, inGroup⟩ := List.mem_flatten.mp member
  obtain ⟨client, call, made, trail⟩ := trails group isGroup
  obtain ⟨fields, ready, _, rfl⟩ := buildClient_eq_ok_iff.mp made.built
  obtain ⟨ordered, shown⟩ := get?_clientHeaders_of_undefined ready undefined
  apply has
  rw [trail.values_eq ordered (by decide) sighting inGroup, shown]
  simp [standardValue?, hides]

end Run

/-- In token mode with an HTTP target, a run that sends a token field logs one warning about it, with only the
configuration record before it. In the other modes no warning is logged, and a token field is sent only if the
header file has an entry for it. -/
theorem warns_of_token (accepted : config.target.IsTarget) (shown : config.logLevel.shows .warn) (task : Task)
    (library : Library) (files : Files) (tunnels : Bool) (answers : List Answer) (now : Int) (order : CookieOrder)
    (limit : Option Nat) :
    let ended := ((task.announced library files config).run config.logLevel
      (.start (.scripted tunnels answers) now order limit)).2
    (task.mode = .token → config.target.scheme = "http" → (∃ request ∈ ended.wire.seen, request.HasTokenField) →
      ∃ before record after, ended.log = before ++ record :: after ∧ record.WarnsOfToken ∧
        (∀ other ∈ before ++ after, ¬ other.WarnsOfToken) ∧ ∀ other ∈ before, other = configurationRecord config) ∧
    (task.mode ≠ .token → (∀ record ∈ ended.log, ¬ record.WarnsOfToken) ∧
      ∀ request ∈ ended.wire.seen, request.HasTokenField →
        ∃ entries, headerEntries files config.header = .ok entries ∧
        ∃ entry ∈ entries, headerName? entry.1 = some "x-cenarius-token") := by
  -- The mode and the scheme of the target decide whether there is a warning; the header fields that are sent do not.
  refine ⟨fun shows http seen => ?_, fun hides => ⟨fun record member warns => ?_, fun request seen has => ?_⟩⟩
  · obtain ⟨request, seen, _⟩ := seen
    obtain ⟨before, after, log, once, early⟩ := warns_once accepted http shown shows seen
    exact ⟨before, _, after, log, warnsOfToken_plainTokenRecord config.target,
      fun other member warns => once other member warns.1, early⟩
  · exact never_warns accepted library files config.logLevel _ (fun _ told => by cases told)
      (.inl hides) record member warns.1
  · exact exists_entry_of_seen hides seen has

/-- A token run that is redirected within an HTTP server logs the warning once for its four requests. -/
theorem warns_of_redirected_token :
    let config : Configuration := ⟨Url.loopback, "agent", "secret", none, none, .warn⟩
    let answers : List Answer := [⟨302, [("Location", "/elsewhere")], [], none⟩, ⟨200, [], [], none⟩]
    let ended := ((announced .token .plain [] config).run config.logLevel
      (.start (.scripted false answers) 0 .asKept none)).2
    config.target.IsTarget ∧ config.logLevel.shows .warn = true ∧ mode .token = .token ∧
      config.target.scheme = "http" ∧ (∃ request ∈ ended.wire.seen, request.HasTokenField) ∧
        ended.wire.seen.length = 4 ∧
      ∃ before record after, ended.log = before ++ record :: after ∧ record.WarnsOfToken ∧
        (∀ other ∈ before ++ after, ¬ other.WarnsOfToken) ∧ ∀ other ∈ before, other = configurationRecord config := by
  -- The run is computed for its requests only, the log follows from the theorem.
  intro config answers ended
  have shown : config.logLevel.shows .warn = true := by decide
  have seen : ∃ request ∈ ended.wire.seen, request.HasTokenField := by decide +kernel
  have four : ended.wire.seen.length = 4 := by decide +kernel
  have shows : mode .token = .token := rfl
  obtain ⟨warned, _⟩ := warns_of_token (show config.target.IsTarget from Url.loopback_isTarget) shown .token
    .plain [] false answers 0 .asKept none
  with_reducible exact ⟨Url.loopback_isTarget, shown, shows, rfl, seen, four, warned shows rfl seen⟩

/-- Two tokens are sent to HTTP servers without a warning: one from the header file of a registration, and one
that an HTTPS server redirects to an HTTP server. -/
theorem token_goes_unwarned :
    let config : Configuration := ⟨Url.loopback, "agent", "secret", some "h", none, .warn⟩
    -- The file says: X-Cenarius-Token: abc
    let files : Files := [("h", .content [0x58, 0x2D, 0x43, 0x65, 0x6E, 0x61, 0x72, 0x69, 0x75, 0x73, 0x2D, 0x54,
      0x6F, 0x6B, 0x65, 0x6E, 0x3A, 0x20, 0x61, 0x62, 0x63])]
    let registered := ((announced .register .plain files config).run config.logLevel
      (.start (.scripted false [⟨200, [], [], none⟩]) 0 .asKept none)).2
    let secure : Configuration := { config with target := { config.target with scheme := "https" }, header := none }
    let redirected := ((announced .token .plain [] secure).run secure.logLevel
      (.start (.scripted true [⟨302, [("Location", "http://[::2]/")], [], none⟩]) 0 .asKept none)).2
    config.logLevel.shows .warn = true ∧ (∃ request ∈ registered.wire.seen, request.url.scheme = "http" ∧
      request.headers.values "x-cenarius-token" = ["abc"]) ∧ registered.log = [] ∧
    secure.logLevel.shows .warn = true ∧ (∃ request ∈ redirected.wire.seen, request.url.scheme = "http" ∧
      request.headers.values "x-cenarius-token" = [secure.credentials.token]) ∧
      ∀ record ∈ redirected.log, ¬ record.WarnsOfToken := by
  decide +kernel

end CommandLine.Task

end AccessProbe
