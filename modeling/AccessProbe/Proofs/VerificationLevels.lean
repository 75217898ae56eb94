import AccessProbe.Proofs.Endings
import AccessProbe.Proofs.PlanLikeness

/-! A verification at info may come to another verdict than one at a lower level, but only where a body breaks off. -/

namespace AccessProbe

namespace Plan

variable {α β : Type} {faults : Unfinished → Prop}

/-- Two plans that send the same requests and end in the same way, whatever they write and log, unless the
first one stops earlier for a cause of some kind. -/
inductive SameUnless (faults : Unfinished → Prop) : Plan α → Plan α → Prop where
  /-- Both end with a value. -/
  | done (value : α) : SameUnless faults (.done value) (.done value)
  /-- Both stop for the same cause. -/
  | stop (cause : Unfinished) : SameUnless faults (.stop cause) (.stop cause)
  /-- The first one stops earlier. -/
  | stopsBefore {cause : Unfinished} (kind : faults cause) (other : Plan α) : SameUnless faults (.stop cause) other
  /-- The first one writes a text. -/
  | writes (text : String) {next other : Plan α} (after : SameUnless faults next other) :
    SameUnless faults (.write text next) other
  /-- The other one writes a text. -/
  | otherWrites (text : String) {plan next : Plan α} (after : SameUnless faults plan next) :
    SameUnless faults plan (.write text next)
  /-- The first one logs a record. -/
  | notes (record : LogRecord) {next other : Plan α} (after : SameUnless faults next other) :
    SameUnless faults (.note record next) other
  /-- The other one logs a record. -/
  | otherNotes (record : LogRecord) {plan next : Plan α} (after : SameUnless faults plan next) :
    SameUnless faults plan (.note record next)
  /-- Both send a request, and go on from the same reply. -/
  | send (client : Client) (call : Call) {next otherNext : Option (Except SendError Reply) → Plan α}
    (after : ∀ reply, SameUnless faults (next reply) (otherNext reply)) :
    SameUnless faults (.send client call next) (.send client call otherNext)

namespace SameUnless

/-- Every plan sends and ends as it does itself. -/
theorem refl (plan : Plan α) : SameUnless faults plan plan := by
  -- What a plan writes or logs is taken off on both sides.
  induction plan with
  | done value => exact .done value
  | stop cause => exact .stop cause
  | write text next ih => exact .writes text (.otherWrites text ih)
  | note record next ih => exact .notes record (.otherNotes record ih)
  | send client call next ih => exact .send client call ih

/-- Related plans stay related under continuations that are related for every value. -/
theorem bind {plan other : Plan α} {rest otherRest : α → Plan β} (before : SameUnless faults plan other)
    (after : ∀ value, SameUnless faults (rest value) (otherRest value)) :
    SameUnless faults (plan >>= rest) (other >>= otherRest) := by
  show SameUnless faults (plan.bind rest) (other.bind otherRest)
  -- Where the first plan stops earlier, it never comes to its continuation.
  induction before with
  | done value => exact after value
  | stop cause => exact .stop cause
  | stopsBefore kind other => exact .stopsBefore kind _
  | writes text _ ih => exact .writes text ih
  | otherWrites text _ ih => exact .otherWrites text ih
  | notes record _ ih => exact .notes record ih
  | otherNotes record _ ih => exact .otherNotes record ih
  | send client call _ ih => exact .send client call ih

/-- Runs of related plans without a report limit have the same result and the same wire, unless the first one
stops earlier; then its requests are the first ones of the other run. -/
theorem run {plan other : Plan α} (same : SameUnless faults plan other) (verbosity otherVerbosity : Verbosity)
    (wire : Wire) (log otherLog : List LogRecord) (written otherWritten : List UInt8) :
    let ended := plan.run verbosity ⟨wire, log, ⟨written, none⟩⟩
    let otherEnded := other.run otherVerbosity ⟨wire, otherLog, ⟨otherWritten, none⟩⟩
    ended.1 = otherEnded.1 ∧ ended.2.wire = otherEnded.2.wire ∨
      ∃ cause, faults cause ∧ ended.1 = .error cause ∧ ended.2.wire.seen <+: otherEnded.2.wire.seen := by
  -- The runs part only where the first one stops, and the other one goes on from the requests of both.
  induction same generalizing wire log otherLog written otherWritten with
  | done value => exact .inl ⟨rfl, rfl⟩
  | stop cause => exact .inl ⟨rfl, rfl⟩
  | stopsBefore kind other => exact .inr ⟨_, kind, rfl, seen_run other ⟨wire, otherLog, ⟨otherWritten, none⟩⟩⟩
  | writes text _ ih => exact ih _ _ _ _ _
  | otherWrites text _ ih => exact ih _ _ _ _ _
  | notes record _ ih =>
    simp only [Plan.run, note_eq]
    exact ih _ _ _ _ _
  | otherNotes record _ ih =>
    simp only [Plan.run, note_eq]
    exact ih _ _ _ _ _
  | send client call _ ih => exact ih _ _ _ _ _ _

end SameUnless

end Plan

namespace Verification

/-- How a verification ends for its user. -/
inductive Verdict where
  /-- The server accepts the token on every path. -/
  | passed
  /-- The verification fails with an error whose first message is the text. -/
  | failed (text : String)
  /-- It waits for ever. -/
  | pending
  deriving DecidableEq

/-- The verdict that the result of a verification gives. -/
def verdict : Except Unfinished Unit → Verdict
  | .ok () => .passed
  | .error (.failed error) => .failed (error.chain.headD "")
  | .error .waiting => .pending

section Levels

variable {level other : Verbosity}

/-- The causes that stop a verification at info and not the other one: a body that cannot be read, or never
ends. -/
def Unread (level other : Verbosity) (cause : Unfinished) : Prop :=
  level.shows .info = true ∧ other.shows .info = false ∧
    (cause = .waiting ∨ ∃ url fault, cause = .failed (.reading url fault))

/-- A line that only info shows makes no difference to the requests. -/
theorem sayInfo_sameUnless {faults : Unfinished → Prop} (text : String) :
    Plan.SameUnless faults (sayInfo level text) (sayInfo other text) := by
  -- The two lines are independent, so that each is taken off by itself.
  have silent (plan : Plan Unit) (same : Plan.SameUnless faults plan (.done ())) :
      Plan.SameUnless faults plan (sayInfo other text) := by
    unfold sayInfo
    split
    · exact .otherWrites _ same
    · exact same
  refine silent _ ?_
  unfold sayInfo
  split
  · exact .writes _ (.done ())
  · exact .done ()

/-- A reply passes at both levels or at neither, unless its body is read at info and cannot be. -/
theorem check_sameUnless (ordered : other.shows .info = true → level.shows .info = true) (url : Url)
    (reply : Reply) : Plan.SameUnless (Unread level other) (check level url reply) (check other url reply) := by
  -- A 401 is settled before the level matters; behind it the level of the first plan decides.
  unfold check
  split
  · exact .refl _
  · cases wanted : level.shows .info with
    | false =>
      -- Neither of the two reads the body.
      have unwanted : other.shows .info = false := Bool.eq_false_iff.mpr fun shows => by
        rw [ordered shows] at wanted
        cases wanted
      rw [unwanted]
      exact .refl _
    | true =>
      cases otherWanted : other.shows .info with
      | true => exact .refl _
      | false =>
        -- Only the first one reads the body, and goes on if it can.
        match reply with
        | ⟨status, cookies, none⟩ => exact .stopsBefore ⟨wanted, otherWanted, .inl rfl⟩ _
        | ⟨status, cookies, some (.error cause)⟩ =>
          exact .stopsBefore ⟨wanted, otherWanted, .inr ⟨_, _, rfl⟩⟩ _
        | ⟨status, cookies, some (.ok text)⟩ => exact .writes _ (.done ())

variable {config : Configuration}

/-- A visit is the same at both levels, unless a body is read at info and cannot be. -/
theorem visit_sameUnless (ordered : other.shows .info = true → config.logLevel.shows .info = true)
    (client : Client) (path : String) : Plan.SameUnless (Unread config.logLevel other)
      (visit config client path) (visit { config with logLevel := other } client path) := by
  -- The level takes part in the path line and in the check of the reply, and nowhere between.
  cases found : endpointUrl config.target path with
  | error cause =>
    have otherMissing : endpointUrl { config with logLevel := other }.target path = .error cause := found
    rw [visit_eq_fail found, visit_eq_fail otherMissing]
    exact .stop _
  | ok url =>
    have otherFound : endpointUrl { config with logLevel := other }.target path = .ok url := found
    rw [visit_eq found, visit_eq otherFound]
    refine (sayInfo_sameUnless _).bind fun _ => .send _ _ fun sent => ?_
    match sent with
    | none => exact .refl _
    | some (.error cause) => exact .refl _
    | some (.ok reply) => exact check_sameUnless ordered url reply

/-- Visits to a list of paths are the same at both levels, with the same exception. -/
theorem visitAll_sameUnless (ordered : other.shows .info = true → config.logLevel.shows .info = true)
    (client : Client) (paths : List String) : Plan.SameUnless (Unread config.logLevel other)
      (visitAll config client paths) (visitAll { config with logLevel := other } client paths) := by
  -- Path by path, each visit followed by the others.
  induction paths with
  | nil => exact .done ()
  | cons path rest ih => exact (visit_sameUnless ordered client path).bind fun _ => ih

/-- A verification is the same at both levels, unless a body is read at info and cannot be. -/
theorem verify_sameUnless (library : Library) (files : Files)
    (ordered : other.shows .info = true → config.logLevel.shows .info = true) :
    Plan.SameUnless (Unread config.logLevel other) (verify library files config)
      (verify library files { config with logLevel := other }) := by
  -- The client is built without a look at the level.
  have token : Authentication.ofMode .token { config with logLevel := other } = .ofMode .token config := rfl
  have one (authentication : Authentication) :
      prepareClient library files { config with logLevel := other } authentication =
        prepareClient library files config authentication := rfl
  rw [verify_eq, verify_eq, token, one]
  refine .writes banner (.otherWrites banner (.bind (.refl _) fun prepared => ?_))
  cases prepared with
  | error cause => exact .stop _
  | ok client =>
    exact .writes _ (.otherWrites _ ((visitAll_sameUnless ordered client privatePaths).bind fun _ => .refl _))

/-- Below info no error of a verification has the first message of a body that cannot be read. -/
theorem chain_ne_reading {level : Verbosity} {error : ProbeError} (kind : mayEnd level error = true)
    (quiet : level.shows .info = false) (url : Url) (cause : BodyError) :
    error.chain.headD "" ≠ (ProbeError.reading url cause).chain.headD "" := by
  intro same
  -- The messages differ within their first seven letters.
  have letters : (error.chain.headD "").toList.take 7 = ['E', 'r', 'r', 'o', 'r', ' ', 'r'] := by
    rw [same]
    simp [ProbeError.chain]
  cases error with
  | initialization cause => simp [ProbeError.chain] at letters
  | endpoint cause => simp [ProbeError.chain, EndpointError.chain] at letters
  | unauthorized => simp [ProbeError.chain] at letters
  | unsent cause => simp [ProbeError.chain] at letters
  | reading url cause => cases quiet.symm.trans kind
  | _ => cases kind

end Levels

/-- A verification that fails with a body that cannot be read. -/
def BreaksOff (result : Except Unfinished Unit) : Prop := ∃ url cause, result = .error (.failed (.reading url cause))

/-- How two runs of a verification compare that differ in their levels only. -/
structure Comparison (level other : Verbosity) (ended otherEnded : Except Unfinished Unit × Work) : Prop where
  /-- Of runs that end, verdict and requests are the same if and only if both levels show info, or neither
  does, or neither run fails with a body that cannot be read. -/
  same_iff : ended.1 ≠ .error .waiting → otherEnded.1 ≠ .error .waiting →
    (verdict ended.1 = verdict otherEnded.1 ∧ ended.2.wire.seen = otherEnded.2.wire.seen ↔
      level.shows .info = other.shows .info ∨ ¬ BreaksOff ended.1 ∧ ¬ BreaksOff otherEnded.1)
  /-- With the same verdict, the result and the whole wire are the same. -/
  whole : ended.1 ≠ .error .waiting → otherEnded.1 ≠ .error .waiting → verdict ended.1 = verdict otherEnded.1 →
    ended.1 = otherEnded.1 ∧ ended.2.wire = otherEnded.2.wire
  /-- If both levels show info, or neither does, the result and the wire are the same even for runs that wait
  for ever. -/
  alike : level.shows .info = other.shows .info → ended.1 = otherEnded.1 ∧ ended.2.wire = otherEnded.2.wire
  /-- The requests of one run are the first ones of the other. -/
  nested : ended.2.wire.seen <+: otherEnded.2.wire.seen ∨ otherEnded.2.wire.seen <+: ended.2.wire.seen

/-- The comparison is symmetric. -/
theorem Comparison.symm {level other : Verbosity} {ended otherEnded : Except Unfinished Unit × Work}
    (comparison : Comparison level other ended otherEnded) : Comparison other level otherEnded ended := by
  -- Each field is symmetric, up to the order of its parts.
  obtain ⟨same_iff, whole, alike, nested⟩ := comparison
  refine ⟨fun otherEnds ends => ?_, fun otherEnds ends same => (whole ends otherEnds same.symm).imp Eq.symm Eq.symm,
    fun same => (alike same.symm).imp Eq.symm Eq.symm, nested.symm⟩
  -- Every part of the equivalence reads the same from the other side.
  rw [eq_comm, @eq_comm _ otherEnded.2.wire.seen, same_iff ends otherEnds, eq_comm, and_comm]

section Runs

variable {library : Library} {files : Files} (config : Configuration) {verbosity otherVerbosity : Verbosity}
  {wire : Wire} {log : List LogRecord} {written : List UInt8}

/-- Below info no verification fails with a body that cannot be read. -/
theorem not_breaksOff (quiet : config.logLevel.shows .info = false) :
    ¬ BreaksOff ((verify library files config).run verbosity ⟨wire, log, ⟨written, none⟩⟩).1 := by
  -- Such a failure is among the errors of a verification only at info.
  rintro ⟨url, cause, failed⟩
  cases quiet.symm.trans ((verify_ends library files config).cause_of_run failed)

/-- Nor has a verification below info the verdict of one that fails with a body that cannot be read. -/
theorem verdict_ne_of_breaksOff {result : Except Unfinished Unit} (breaks : BreaksOff result)
    (quiet : config.logLevel.shows .info = false) :
    verdict result ≠ verdict ((verify library files config).run verbosity ⟨wire, log, ⟨written, none⟩⟩).1 := by
  -- A failed verdict tells the first message of the error, which `chain_ne_reading` excludes.
  obtain ⟨url, cause, rfl⟩ := breaks
  intro same
  match ended : ((verify library files config).run verbosity ⟨wire, log, ⟨written, none⟩⟩).1 with
  | .ok value =>
    rw [ended] at same
    cases same
  | .error .waiting =>
    rw [ended] at same
    cases same
  | .error (.failed error) =>
    rw [ended] at same
    exact chain_ne_reading ((verify_ends library files config).cause_of_run ended) quiet url cause
      (Verdict.failed.inj same).symm

/-- A verification compares with every one whose level shows info only if its own does. -/
theorem verify_compares {level : Verbosity}
    (ordered : level.shows .info = true → config.logLevel.shows .info = true) :
    Comparison config.logLevel level
      ((verify library files config).run verbosity ⟨wire, log, ⟨written, none⟩⟩)
      ((verify library files { config with logLevel := level }).run otherVerbosity
        ⟨wire, log, ⟨written, none⟩⟩) := by
  -- Either the runs go all the way together, or the first one stops at a body that the other does not read.
  rcases (verify_sameUnless library files ordered).run verbosity otherVerbosity wire log log written written with
    ⟨result, wires⟩ | ⟨cause, ⟨shows, hidden, kind⟩, stopped, first⟩
  · have seen := congrArg Wire.seen wires
    refine ⟨fun _ _ => ⟨fun _ => ?_, fun _ => ⟨congrArg verdict result, seen⟩⟩, fun _ _ _ => ⟨result, wires⟩,
      fun _ => ⟨result, wires⟩, .inl ⟨[], (List.append_nil _).trans seen⟩⟩
    cases shown : level.shows .info with
    | true => exact .inl (ordered shown)
    | false =>
      -- The other run reads no body, and the first one has the same result.
      exact .inr ⟨by rw [result]; exact not_breaksOff _ shown, not_breaksOff _ shown⟩
  · have apart : config.logLevel.shows .info ≠ level.shows .info := by
      rw [shows, hidden]
      decide
    -- Unless it waits for ever, the first run fails with a verdict that the other one never has.
    have breaks (ends : ((verify library files config).run verbosity ⟨wire, log, ⟨written, none⟩⟩).1 ≠
        .error .waiting) : BreaksOff ((verify library files config).run verbosity
          ⟨wire, log, ⟨written, none⟩⟩).1 := by
      obtain rfl | ⟨url, fault, rfl⟩ := kind
      · exact absurd stopped ends
      · exact ⟨url, fault, stopped⟩
    refine ⟨fun ends _ => ⟨fun same => ?_, fun either => ?_⟩, fun ends _ same => ?_,
      fun same => absurd same apart, .inl first⟩
    · exact absurd same.1 (verdict_ne_of_breaksOff _ (breaks ends) hidden)
    · exact either.elim (fun same => absurd same apart) fun neither => absurd (breaks ends) neither.1
    · exact absurd same (verdict_ne_of_breaksOff _ (breaks ends) hidden)

/-- The log level decides on the verdict and the requests of a verification only where a body breaks off: at
info the verification fails there, below info it goes on. Without a time limit, a body that never ends keeps a
verification at info waiting for ever. -/
theorem level_decides_where_contents_break_off (library : Library) (files : Files) (config : Configuration)
    (level : Verbosity) (verbosity otherVerbosity : Verbosity) (wire : Wire) (log : List LogRecord)
    (written : List UInt8) :
    let ended := (verify library files config).run verbosity ⟨wire, log, ⟨written, none⟩⟩
    let otherEnded := (verify library files { config with logLevel := level }).run otherVerbosity
      ⟨wire, log, ⟨written, none⟩⟩
    Comparison config.logLevel level ended otherEnded ∧
      (config.timeLimit ≠ none → ended.1 ≠ .error .waiting ∧ otherEnded.1 ≠ .error .waiting) := by
  -- Whichever level shows info takes the part of the first run, and the comparison is symmetric.
  intro ended otherEnded
  refine ⟨?_, fun limited => ⟨(verify_ends library files config).run_ne_waiting limited verbosity wire log written,
    (verify_ends library files { config with logLevel := level }).run_ne_waiting limited otherVerbosity wire log
      written⟩⟩
  cases shown : config.logLevel.shows .info with
  | true => exact verify_compares config fun _ => shown
  | false =>
    -- The configured level is below info, so that the other one takes the first part.
    have reverse : config.logLevel.shows .info = true → level.shows .info = true := fun shows =>
      absurd (shown.symm.trans shows) Bool.false_ne_true
    exact (verify_compares { config with logLevel := level } reverse).symm

/-- Five bodies that break off fail a verification at info at the first path, and let one at warn pass. -/
theorem level_decides_on_broken_contents :
    let config : Configuration := ⟨Url.loopback, "agent", "secret", none, none, .info⟩
    let answers : List Answer := List.replicate 5 ⟨200, [], [0x7B], some .truncate⟩
    let work : Work := .start (.scripted false answers) 0 .asKept none
    let ended := (verify .plain [] config).run .info work
    let otherEnded := (verify .plain [] { config with logLevel := .warn }).run .warn work
    verdict ended.1 = .failed "Error reading the response from http://[::1]:8080/api/v1/private/health" ∧
      verdict otherEnded.1 = .passed ∧ ended.2.wire.seen.length = 1 ∧ otherEnded.2.wire.seen.length = 5 := by
  decide +kernel

end Runs

end Verification

end AccessProbe
