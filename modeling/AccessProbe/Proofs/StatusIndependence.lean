import AccessProbe.Proofs.Http.Statuses
import AccessProbe.Proofs.StepSequence
import AccessProbe.Proofs.Text.Decimal
import AccessProbe.Proofs.Text.Utf8

/-! Ordinary status codes change the report only, never the requests. -/

namespace AccessProbe

/-- An ordinary status code has three digits. -/
theorem Status.length_of_isOrdinary {status : Nat} (ordinary : isOrdinary status) :
    (Utf8.encode (toString status).toList).length = 3 := by
  -- The number of digits is at most 3 and more than 2, and each digit is one byte.
  simp only [isOrdinary, Bool.and_eq_true, decide_eq_true_eq] at ordinary
  obtain ⟨⟨⟨⟨low, high⟩, _⟩, _⟩, _⟩ := ordinary
  -- Only the bounds 100 and 1000 matter.
  have upper : (Nat.toDigits 10 status).length ≤ 3 :=
    (Nat.length_toDigits_le_iff (by decide) (by decide)).mpr (by omega)
  have lower : ¬ (Nat.toDigits 10 status).length ≤ 2 :=
    (Nat.length_toDigits_le_iff (by decide) (by decide)).not.mpr (by omega)
  have digits : ∀ c ∈ Nat.toDigits 10 status, c.toNat < 0x80 := by
    intro c member
    have range := Decimal.toNat_of_isDigit (Nat.isDigit_of_mem_toDigits (by decide) (by decide) member)
    omega
  rw [Nat.toString_eq_ofList_toDigits, String.toList_ofList, Utf8.length_encode_of_basic digits]
  omega

namespace Report

/-- Writing twice is writing once. -/
theorem append_append (report : Report) (first second : List UInt8) :
    (report.append first).append second = report.append (first ++ second) := by
  -- With a limit, what the first string leaves of it is left for the second.
  obtain ⟨written, room⟩ := report
  cases room with
  | none => simp [append]
  | some room => simp [append, List.take_append, Nat.sub_add_eq]

theorem append_nil (report : Report) : report.append [] = report := by
  obtain ⟨written, room⟩ := report
  cases room with
  | none => simp [append]
  | some room => simp [append]

/-- The limit left depends only on the number of bytes written. -/
theorem room_append {report other : Report} {bytes otherBytes : List UInt8} (room : report.room = other.room)
    (length : bytes.length = otherBytes.length) :
    (report.append bytes).room = (other.append otherBytes).room := by
  simp only [append, room, length]
  split
  · rfl
  · rfl

end Report

/-- Two responses as read by the program that are equal up to ordinary status codes. -/
structure Received.SameButStatus (received other : Received) : Prop where
  status : Status.Alike received.status other.status
  cookies : received.cookies = other.cookies
  text : received.text = other.text

/-- Two strings of a report: equal, or the lines of responses that are equal up to ordinary status codes. -/
inductive TextAlike : String → String → Prop where
  /-- They are equal. -/
  | same (text : String) : TextAlike text text
  /-- They are the lines of such responses. -/
  | line {received other : Received} (same : received.SameButStatus other) :
    TextAlike (Probe.responseLine received) (Probe.responseLine other)

/-- Such strings have the same number of bytes. -/
theorem TextAlike.length {text other : String} (alike : TextAlike text other) :
    (Utf8.encode text.toList).length = (Utf8.encode other.toList).length := by
  -- The lines have the same text after the status code.
  cases alike with
  | same => rfl
  | line same =>
    have number := same.status
    simp only [Probe.responseLine, String.toList_append, Utf8.encode_append, List.length_append, same.text]
    -- The status codes are equal or have three digits each.
    rcases number with equal | ⟨ordinary, otherOrdinary⟩
    · rw [equal]
    · rw [Status.length_of_isOrdinary ordinary, Status.length_of_isOrdinary otherOrdinary]

namespace Plan

variable {α β γ δ : Type} {values : α → β → Prop}

/-- Two plans that write such strings, send the same requests as long as replies are equal up to ordinary
status codes, and return related values or stop for the same cause. -/
inductive SameButStatus (values : α → β → Prop) : Plan α → Plan β → Prop where
  /-- Both return related values. -/
  | done {value : α} {other : β} (together : values value other) : SameButStatus values (.done value) (.done other)
  /-- Both stop. -/
  | stop (cause : Unfinished) : SameButStatus values (.stop cause) (.stop cause)
  /-- Both write such strings. -/
  | write {text otherText : String} (texts : TextAlike text otherText) {next : Plan α} {otherNext : Plan β}
    (after : SameButStatus values next otherNext) :
    SameButStatus values (.write text next) (.write otherText otherNext)
  /-- Both log a record, possibly with different status codes. -/
  | note (record otherRecord : LogRecord) {next : Plan α} {otherNext : Plan β}
    (after : SameButStatus values next otherNext) :
    SameButStatus values (.note record next) (.note otherRecord otherNext)
  /-- Both send the same request, and are related for related replies. -/
  | send (client : Client) (call : Call) {next : Option (Except SendError Reply) → Plan α}
    {otherNext : Option (Except SendError Reply) → Plan β}
    (after : ∀ reply otherReply, Option.Rel (ResultAlike Reply.SameButStatus) reply otherReply →
      SameButStatus values (next reply) (otherNext otherReply)) :
    SameButStatus values (.send client call next) (.send client call otherNext)

namespace SameButStatus

/-- Sequences of related plans are related. -/
theorem bind {results : γ → δ → Prop} {plan : Plan α} {other : Plan β} {rest : α → Plan γ}
    {otherRest : β → Plan δ} (before : SameButStatus values plan other)
    (after : ∀ value otherValue, values value otherValue →
      SameButStatus results (rest value) (otherRest otherValue)) :
    SameButStatus results (plan >>= rest) (other >>= otherRest) := by
  -- Induction along both first plans.
  show SameButStatus results (plan.bind rest) (other.bind otherRest)
  induction before with
  | done together => exact after _ _ together
  | stop cause => exact .stop cause
  | write texts _ ih => exact .write texts ih
  | note record otherRecord _ ih => exact .note record otherRecord ih
  | send client call _ ih => exact .send client call ih

/-- Related results make related plans. -/
theorem ofExcept {alike : α → β → Prop} {result : Except ProbeError α} {other : Except ProbeError β}
    (results : ResultAlike alike result other) :
    SameButStatus alike (Plan.ofExcept result) (Plan.ofExcept other) := by
  -- Both are values or both are the same error.
  cases results with
  | ok values => exact .done values
  | error cause => exact .stop (.failed cause)

/-- Related values that may never arrive make related plans. -/
theorem await {alike : α → β → Prop} {awaited : Option α} {other : Option β}
    (values : Option.Rel alike awaited other) : SameButStatus alike (Plan.await awaited) (Plan.await other) := by
  -- Both arrive or neither does.
  cases values with
  | none => exact .stop .waiting
  | some value => exact .done value

/-- Related plans over wires that are abreast have the same result, leave the wires abreast, and write related
strings. -/
theorem run {tunnels : Bool} {answers others : List Answer}
    (scripts : List.Forall₂ Answer.SameButStatus answers others)
    {plan other : Plan α} (alike : SameButStatus Eq plan other) {used : Nat} {wire otherWire : Wire}
    (abreast : Wire.Abreast tunnels answers others used wire otherWire) (verbosity : Verbosity)
    (log otherLog : List LogRecord) {report otherReport : Report} (room : report.room = otherReport.room) :
    let ended := plan.run verbosity ⟨wire, log, report⟩
    let otherEnded := other.run verbosity ⟨otherWire, otherLog, otherReport⟩
    ended.1 = otherEnded.1 ∧ (∃ later, Wire.Abreast tunnels answers others later ended.2.wire otherEnded.2.wire) ∧
      ∃ texts otherTexts, List.Forall₂ TextAlike texts otherTexts ∧
        ended.2.report = report.append (Utf8.encode (String.join texts).toList) ∧
        otherEnded.2.report = otherReport.append (Utf8.encode (String.join otherTexts).toList) := by
  have nothing (report : Report) : report = report.append (Utf8.encode (String.join []).toList) :=
    report.append_nil.symm
  -- Induction along both plans, with the invariant that both reports have the same limit left.
  induction alike generalizing used wire otherWire log otherLog report otherReport with
  | done together =>
    exact ⟨congrArg Except.ok together, ⟨used, abreast⟩, [], [], .nil, nothing _, nothing _⟩
  | stop cause => exact ⟨rfl, ⟨used, abreast⟩, [], [], .nil, nothing _, nothing _⟩
  | @write text otherText texts next otherNext _ ih =>
    have joined (first : String) (rest : List String) (report : Report) :
        (report.append (Utf8.encode first.toList)).append (Utf8.encode (String.join rest).toList) =
          report.append (Utf8.encode (String.join (first :: rest)).toList) := by
      rw [Report.append_append, ← Utf8.encode_append, ← String.toList_append, String.join_cons]
    -- Both strings have the same length, so both fit or neither does.
    have fits : report.fits (Utf8.encode text.toList).length =
        otherReport.fits (Utf8.encode otherText.toList).length := by
      rw [Report.fits, Report.fits, room, texts.length]
    simp only [Plan.run, ← fits]
    split
    · obtain ⟨same, after, rest, otherRest, alike, wrote, otherWrote⟩ :=
        ih abreast log otherLog (Report.room_append room texts.length)
      refine ⟨same, after, text :: rest, otherText :: otherRest, .cons texts alike, ?_, ?_⟩
      · rw [wrote, joined]
      · rw [otherWrote, joined]
    · refine ⟨rfl, ⟨used, abreast⟩, [text], [otherText], .cons texts .nil, ?_, ?_⟩
      · simp
      · simp
  | note record otherRecord _ ih =>
    -- Records may show different status codes, so the logs differ here; nothing depends on them.
    simp only [Plan.run, Plan.note_eq]
    exact ih abreast _ _ room
  | send client call _ ih =>
    obtain ⟨later, replies, after⟩ := abreast.send scripts client call
    exact ih _ _ replies after log otherLog room

end SameButStatus

end Plan

/-- Replies that are equal up to ordinary status codes have outcomes that are. -/
theorem Errand.outcome_alike (errand : Errand) (url : Url) {reply other : Option (Except SendError Reply)}
    (replies : Option.Rel (ResultAlike Reply.SameButStatus) reply other) :
    Option.Rel (ResultAlike Received.SameButStatus) (errand.outcome url reply) (errand.outcome url other) := by
  -- Status codes are not errors, so that only the body of a response decides.
  cases replies with
  | none => exact .none
  | some replies =>
    cases replies with
    | error cause => exact .some (.error _)
    | @ok reply other same =>
      obtain ⟨status, cookies, text⟩ := reply
      obtain ⟨otherStatus, otherCookies, otherText⟩ := other
      obtain ⟨statuses, rfl, rfl⟩ := same
      -- The text is the same in both, so it is received, an error or awaited for ever in both.
      cases text with
      | none => exact .none
      | some ended =>
        cases ended with
        | error cause => exact .some (.error _)
        | ok text => exact .some (.ok ⟨statuses, rfl, rfl⟩)

namespace Probe

open Plan (SameButStatus)

variable (probe : Probe)

/-- An attempt is related to itself. -/
theorem attempt_sameButStatus (errand : Errand) :
    SameButStatus (ResultAlike Received.SameButStatus) (probe.attempt errand) (probe.attempt errand) := by
  -- Without a URL nothing is sent; with one related replies have related outcomes.
  cases found : endpointUrl probe.target errand.path with
  | error cause =>
    simp only [attempt, found]
    exact .done (.error _)
  | ok url =>
    rw [attempt_eq found]
    exact .note _ _ (.send _ _ fun reply other replies => .await (errand.outcome_alike url replies))

/-- So is a request whose error ends the task. -/
theorem fetch_sameButStatus (errand : Errand) :
    SameButStatus Received.SameButStatus (probe.fetch errand) (probe.fetch errand) :=
  (probe.attempt_sameButStatus errand).bind fun _ _ results => .ofExcept results

/-- Related responses are reported by related lines. -/
theorem report_sameButStatus {received other : Received} (same : received.SameButStatus other) :
    SameButStatus Eq (report received) (report other) :=
  .note _ _ (.write (.line same) (.done rfl))

/-- A step of a session is related to itself. -/
theorem step_sameButStatus (errand : Errand) : SameButStatus Eq (probe.step errand) (probe.step errand) := by
  -- The lines of the responses are related, and those of the cookies are the same.
  refine (probe.fetch_sameButStatus errand).bind fun received other same => ?_
  have cookies : cookieLine received = cookieLine other := by rw [cookieLine, cookieLine, same.cookies]
  rw [reportWithCookies_eq, reportWithCookies_eq, cookies]
  exact .note _ _ (.write (.line same) (.write (.same _) (.done rfl)))

/-- So is a session. -/
theorem session_sameButStatus : SameButStatus Eq probe.session probe.session := by
  -- It is two steps.
  rw [session_eq]
  exact (probe.step_sameButStatus .login).bind fun _ _ _ => probe.step_sameButStatus _

/-- So is counting failed attempts, with equal numbers. -/
theorem countFailures_sameButStatus (paths : List String) :
    SameButStatus Eq (probe.countFailures paths) (probe.countFailures paths) := by
  -- Induction on the paths; an ordinary status code is never a failure by itself.
  induction paths with
  | nil => exact .done rfl
  | cons path rest ih =>
    refine (probe.attempt_sameButStatus (.look path)).bind fun outcome other outcomes => ?_
    have reported : SameButStatus Eq (reportAttempt outcome) (reportAttempt other) := by
      cases outcomes with
      | ok same => exact (report_sameButStatus same).bind fun _ _ _ => .done rfl
      | error error => exact .note _ _ (.write (.same _) (.done rfl))
    refine reported.bind fun failed _ equal => ih.bind fun others _ equalOthers => .done ?_
    rw [equal, equalOthers]

/-- So is a token run. -/
theorem token_sameButStatus : SameButStatus Eq probe.token probe.token := by
  -- The result depends on the number of failures only.
  refine (probe.countFailures_sameButStatus tokenPaths).bind fun failed other equal => ?_
  subst equal
  split
  · exact .done rfl
  · exact .stop _

/-- So is a registration. -/
theorem register_sameButStatus : SameButStatus Eq probe.register probe.register :=
  (probe.fetch_sameButStatus .registration).bind fun _ _ same => report_sameButStatus same

/-- So is listing secrets. -/
theorem list_sameButStatus (kind : SecretKind) : SameButStatus Eq (probe.list kind) (probe.list kind) := by
  -- A log record, one request and its report.
  rw [list_eq]
  exact .note _ _ ((probe.fetch_sameButStatus _).bind fun _ _ same => report_sameButStatus same)

/-- So is every step. -/
theorem Step.sameButStatus (step : Step) : SameButStatus Eq (step.plan probe) (step.plan probe) :=
  match step with
  | .session => probe.session_sameButStatus
  | .token => probe.token_sameButStatus
  | .register => probe.register_sameButStatus
  | .list kind => probe.list_sameButStatus kind

/-- Scripts that differ in ordinary status codes only lead to the same requests, the same number of answers
taken, the same cookies and the same result of a step. The reports consist of the same strings, up to the
status codes at the start of the lines of responses. -/
theorem statuses_change_report_only {answers others : List Answer}
    (scripts : List.Forall₂ Answer.SameButStatus answers others) (library : Library) (files : Files)
    (config : Configuration) (mode : Mode) (step : Step) (verbosity : Verbosity) (tunnels : Bool) (jar : Jar)
    (seen : List Request) (log : List LogRecord) (report : Report) :
    let plan := prepare library files config mode >>= step.plan
    let ended := plan.run verbosity ⟨⟨.scripted tunnels answers, jar, seen⟩, log, report⟩
    let otherEnded := plan.run verbosity ⟨⟨.scripted tunnels others, jar, seen⟩, log, report⟩
    ended.1 = otherEnded.1 ∧ ended.2.wire.seen = otherEnded.2.wire.seen ∧
      ended.2.wire.jar = otherEnded.2.wire.jar ∧
      (∃ used, ended.2.wire.network = .scripted tunnels (answers.drop used) ∧
        otherEnded.2.wire.network = .scripted tunnels (others.drop used)) ∧
      ∃ texts otherTexts, List.Forall₂ TextAlike texts otherTexts ∧
        ended.2.report = report.append (Utf8.encode (String.join texts).toList) ∧
        otherEnded.2.report = report.append (Utf8.encode (String.join otherTexts).toList) := by
  -- Preparing the probe sends nothing, and the step is related to itself.
  intro plan ended otherEnded
  have start : Wire.Abreast tunnels answers others 0 ⟨.scripted tunnels answers, jar, seen⟩
      ⟨.scripted tunnels others, jar, seen⟩ := ⟨rfl, rfl, rfl, rfl⟩
  -- Preparing the probe takes no answer.
  obtain ⟨prepared, records, ran⟩ := run_prepare library files config mode verbosity
  simp only [ended, otherEnded, plan, Plan.run_bind, ran]
  cases prepared with
  | error error => exact ⟨rfl, rfl, rfl, ⟨0, rfl, rfl⟩, [], [], .nil, report.append_nil.symm, report.append_nil.symm⟩
  | ok probe =>
    obtain ⟨same, ⟨used, after⟩, wrote⟩ :=
      (step.sameButStatus probe).run scripts start verbosity (log ++ records) (log ++ records) rfl
    exact ⟨same, after.seen, after.jar, ⟨used, after.network, after.otherNetwork⟩, wrote⟩

/-- A session whose login gets a 401 continues like one with a 200, with the cookie of that response. -/
theorem refused_session_goes_on :
    let config : Configuration := ⟨Url.loopback, "agent", "secret", none, none, .off⟩
    let script (login health : Nat) : List Answer := [⟨login, [("Set-Cookie", "id=7; Path=/")], [0x68, 0x69], none⟩,
      ⟨307, [("Location", "/other")], [], none⟩, ⟨health, [], [0x6F, 0x6B], none⟩]
    let ended (login health : Nat) := (prepare .plain [] config .session >>= Step.plan .session).run .off
      ⟨⟨.scripted false (script login health), .empty 0 .asKept, []⟩, [], .empty none⟩
    List.Forall₂ Answer.SameButStatus (script 200 200) (script 401 503) ∧
      (ended 200 200).1 = .ok () ∧ (ended 401 503).1 = .ok () ∧ (ended 401 503).2.wire.seen.length = 3 ∧
      (ended 200 200).2.wire.seen = (ended 401 503).2.wire.seen ∧
      (ended 401 503).2.report.written =
        Utf8.encode "401 hi\ncookies: [id=7]\n503 ok\ncookies: []\n".toList := by
  intro config script ended
  have scripts : List.Forall₂ Answer.SameButStatus (script 200 200) (script 401 503) :=
    .cons ⟨.inr (by decide), rfl, rfl, rfl⟩ (.cons (.refl _) (.cons ⟨.inr (by decide), rfl, rfl, rfl⟩ .nil))
  have accepted : (ended 200 200).1 = .ok () := by decide +kernel
  have three : (ended 401 503).2.wire.seen.length = 3 := by decide +kernel
  have wrote : (ended 401 503).2.report.written =
      Utf8.encode "401 hi\ncookies: [id=7]\n503 ok\ncookies: []\n".toList := by decide +kernel
  obtain ⟨result, requests, _⟩ :=
    statuses_change_report_only scripts .plain [] config .session .session .off false (.empty 0 .asKept) [] []
      (.empty none)
  have same : (ended 200 200).1 = (ended 401 503).1 := result
  have seen : (ended 200 200).2.wire.seen = (ended 401 503).2.wire.seen := requests
  with_reducible exact ⟨scripts, accepted, same.symm.trans accepted, three, seen, wrote⟩

end Probe

end AccessProbe
