import AccessProbe.Proofs.Outcome

/-! A session reports the login before it continues, each response with its own cookies. -/

namespace AccessProbe

namespace Probe

variable {verbosity : Verbosity} {wire : Wire} {log : List LogRecord} {written : List UInt8}

/-- The run of a request whose error ends the task. -/
theorem run_fetch {probe : Probe} {errand : Errand} {url : Url} {report : Report}
    (found : endpointUrl probe.target errand.path = .ok url) :
    (probe.fetch errand).run verbosity ⟨wire, log, report⟩ =
      let sent := wire.send probe.client (errand.call probe.credentials url)
      (Plan.resolved (errand.outcome url sent.1),
        ⟨sent.2, log ++ verbosity.kept [errand.record probe.credentials url], report⟩) := by
  -- An attempt that fails or waits for ever is the last thing that the run does.
  rw [fetch, Plan.run_bind, attempt_eq found]
  simp only [Plan.run, Plan.note_eq]
  rcases errand.outcome url (wire.send probe.client (errand.call probe.credentials url)).1 with
    _ | error | received <;> rfl

/-- Its steps. -/
theorem acts_fetch {probe : Probe} {errand : Errand} {url : Url} {work : Work}
    (found : endpointUrl probe.target errand.path = .ok url) :
    (probe.fetch errand).acts verbosity work = [.note (errand.record probe.credentials url),
      .send probe.client (errand.call probe.credentials url)] := by
  -- Nothing follows the request, whatever its outcome is.
  rw [fetch, Plan.acts_bind, attempt_eq found]
  simp only [Plan.run, Plan.acts]
  rcases errand.outcome url _ with _ | error | received <;> rfl

/-- A step of a session: a request whose response is reported with its cookies. -/
def step (probe : Probe) (errand : Errand) : Plan Unit := do reportWithCookies (← probe.fetch errand)

/-- A session is two steps. -/
theorem session_eq (probe : Probe) :
    probe.session = probe.step .login >>= fun _ => probe.step (.look healthPath) :=
  (Plan.bind_assoc ..).symm

/-- Reporting a response with its cookies is one record and two strings. -/
theorem reportWithCookies_eq (received : Received) : reportWithCookies received =
    .note (statusRecord received) (.write (responseLine received)
      (.write (cookieLine received) (.done ()))) := rfl

/-- The two strings that report a response with its cookies. -/
def pieces (received : Received) : List String := [responseLine received, cookieLine received]

/-- They are encoded one after the other. -/
theorem encode_pieces (received : Received) : Utf8.encode (String.join (pieces received)).toList =
    Utf8.encode (responseLine received).toList ++ Utf8.encode (cookieLine received).toList := by
  -- Encoding distributes over appending.
  rw [← Utf8.encode_append, ← String.toList_append]
  simp [pieces]

section Step

variable {probe : Probe} {errand : Errand} {url : Url} {cause : Unfinished} {received : Received}

/-- A step without a readable response stops and writes nothing. -/
theorem run_step_stop (found : endpointUrl probe.target errand.path = .ok url)
    (stopped : Plan.resolved (errand.outcome url
      (wire.send probe.client (errand.call probe.credentials url)).1) = .error cause) :
    (probe.step errand).run verbosity ⟨wire, log, ⟨written, none⟩⟩ =
      (.error cause, ⟨(wire.send probe.client (errand.call probe.credentials url)).2,
        log ++ verbosity.kept [errand.record probe.credentials url], ⟨written, none⟩⟩) := by
  -- There is no response to report.
  rw [step, Plan.run_bind, run_fetch found]
  simp only [stopped]

/-- It has logged and sent its request only. -/
theorem acts_step_stop (found : endpointUrl probe.target errand.path = .ok url)
    (stopped : Plan.resolved (errand.outcome url
      (wire.send probe.client (errand.call probe.credentials url)).1) = .error cause) :
    (probe.step errand).acts verbosity ⟨wire, log, ⟨written, none⟩⟩ =
      [.note (errand.record probe.credentials url),
        .send probe.client (errand.call probe.credentials url)] := by
  -- Reporting comes after the response, so nothing of it is done.
  rw [step, Plan.acts_bind, run_fetch found, acts_fetch found]
  simp only [stopped]
  rfl

/-- A step with a readable response reports it. -/
theorem run_step_ok (found : endpointUrl probe.target errand.path = .ok url)
    (answered : errand.outcome url (wire.send probe.client (errand.call probe.credentials url)).1 =
      some (.ok received)) :
    (probe.step errand).run verbosity ⟨wire, log, ⟨written, none⟩⟩ =
      (.ok (), ⟨(wire.send probe.client (errand.call probe.credentials url)).2,
        log ++ verbosity.kept [errand.record probe.credentials url]
          ++ verbosity.kept [statusRecord received],
        ⟨written ++ Utf8.encode (String.join (pieces received)).toList, none⟩⟩) := by
  -- Reporting is a log record and the two strings, one after the other.
  rw [step, Plan.run_bind, run_fetch found]
  simp only [answered, Plan.resolved]
  rw [reportWithCookies_eq, Plan.run, Plan.note_eq, Plan.run_write, Plan.run_write,
    List.append_assoc written, ← encode_pieces]
  rfl

/-- It logs and sends its request and reports the response. -/
theorem acts_step_ok (found : endpointUrl probe.target errand.path = .ok url)
    (answered : errand.outcome url (wire.send probe.client (errand.call probe.credentials url)).1 =
      some (.ok received)) :
    (probe.step errand).acts verbosity ⟨wire, log, ⟨written, none⟩⟩ =
      [.note (errand.record probe.credentials url),
        .send probe.client (errand.call probe.credentials url)] ++
        .note (statusRecord received) :: (pieces received).map Act.write := by
  -- The steps of the request are followed by those of its report.
  rw [step, Plan.acts_bind, run_fetch found, acts_fetch found]
  simp only [answered, Plan.resolved]
  -- There is no report limit, so both strings are written.
  congr 1
  rw [reportWithCookies_eq, Plan.acts, Plan.note_eq]
  rfl

end Step

section Session

variable {probe : Probe} {login : Url} {cause : Unfinished} {greeting : Received}

/-- The state in which a session takes its second step. -/
def greeted (probe : Probe) (verbosity : Verbosity) (login : Url) (greeting : Received) (wire : Wire)
    (log : List LogRecord) (written : List UInt8) : Work :=
  ⟨(wire.send probe.client (Errand.login.call probe.credentials login)).2,
    log ++ verbosity.kept [Errand.login.record probe.credentials login] ++ verbosity.kept [statusRecord greeting],
    ⟨written ++ Utf8.encode (String.join (pieces greeting)).toList, none⟩⟩

/-- A session whose login has no readable response ends with it. -/
theorem run_session_stop (found : endpointUrl probe.target Errand.login.path = .ok login)
    (stopped : Plan.resolved (Errand.login.outcome login
      (wire.send probe.client (Errand.login.call probe.credentials login)).1) = .error cause) :
    probe.session.run verbosity ⟨wire, log, ⟨written, none⟩⟩ =
      (.error cause, ⟨(wire.send probe.client (Errand.login.call probe.credentials login)).2,
        log ++ verbosity.kept [Errand.login.record probe.credentials login], ⟨written, none⟩⟩) := by
  rw [session_eq, Plan.run_bind, run_step_stop found stopped]

/-- It has logged and sent the login only. -/
theorem acts_session_stop (found : endpointUrl probe.target Errand.login.path = .ok login)
    (stopped : Plan.resolved (Errand.login.outcome login
      (wire.send probe.client (Errand.login.call probe.credentials login)).1) = .error cause) :
    probe.session.acts verbosity ⟨wire, log, ⟨written, none⟩⟩ =
      [.note (Errand.login.record probe.credentials login),
        .send probe.client (Errand.login.call probe.credentials login)] := by
  rw [session_eq, Plan.acts_bind, run_step_stop found stopped, acts_step_stop found stopped]
  exact List.append_nil _

/-- A session whose login has a readable response ends as its second step does. -/
theorem run_session_ok (found : endpointUrl probe.target Errand.login.path = .ok login)
    (answered : Errand.login.outcome login
      (wire.send probe.client (Errand.login.call probe.credentials login)).1 = some (.ok greeting)) :
    probe.session.run verbosity ⟨wire, log, ⟨written, none⟩⟩ =
      (probe.step (.look healthPath)).run verbosity (probe.greeted verbosity login greeting wire log written) := by
  rw [session_eq, Plan.run_bind, run_step_ok found answered]
  rfl

/-- It has reported the response of the login before the second step. -/
theorem acts_session_ok (found : endpointUrl probe.target Errand.login.path = .ok login)
    (answered : Errand.login.outcome login
      (wire.send probe.client (Errand.login.call probe.credentials login)).1 = some (.ok greeting)) :
    probe.session.acts verbosity ⟨wire, log, ⟨written, none⟩⟩ =
      [.note (Errand.login.record probe.credentials login),
        .send probe.client (Errand.login.call probe.credentials login)] ++
        .note (statusRecord greeting) :: (pieces greeting).map Act.write ++
        (probe.step (.look healthPath)).acts verbosity
          (probe.greeted verbosity login greeting wire log written) := by
  rw [session_eq, Plan.acts_bind, run_step_ok found answered, acts_step_ok found answered]
  rfl

end Session

/-- A session starts with the login. Without a response whose body can be read it ends there and writes
nothing. Otherwise it reports that response with its own cookies and no others, and only then requests the
health endpoint, which it reports in the same way. Only a client without a time limit may wait for ever for
either of them. -/
theorem session_reports_each_response {probe : Probe} (accepted : probe.target.IsTarget)
    (verbosity : Verbosity) (wire : Wire) (log : List LogRecord) (written : List UInt8) :
    ∃ login health, endpointUrl probe.target "api/v1/user/login" = .ok login ∧
      endpointUrl probe.target "api/v1/private/health" = .ok health ∧
      let work : Work := ⟨wire, log, ⟨written, none⟩⟩
      let enter : Call := ⟨login, some (Utf8.encode probe.credentials.json)⟩
      let look : Call := ⟨health, none⟩
      let first := wire.send probe.client enter
      let second := first.2.send probe.client look
      let asked := Errand.look "api/v1/private/health"
      let pieces (received : Received) : List String :=
        [toString received.status ++ " " ++ received.text ++ "\n",
          "cookies: [" ++ String.intercalate ", " received.cookies ++ "]\n"]
      let ended := probe.session.run verbosity work
      let acts := probe.session.acts verbosity work
      let entering : List Act :=
        [.note (Errand.login.record probe.credentials login), .send probe.client enter]
      let looking : List Act := [.note (asked.record probe.credentials health), .send probe.client look]
      let reporting (received : Received) : List Act :=
        .note (statusRecord received) :: (pieces received).map Act.write
      (probe.client.timeLimit ≠ none → ended.1 ≠ .error .waiting) ∧
      ∃ entered, wire.Attempted probe.client .login enter entered ∧
        match entered with
        | none =>
          ended.1 = .error .waiting ∧ ended.2.wire = first.2 ∧ ended.2.report.written = written ∧ acts = entering
        | some (.error error) =>
          ended.1 = .error (.failed error) ∧ ended.2.wire = first.2 ∧ ended.2.report.written = written ∧
          acts = entering
        | some (.ok greeting) => ∃ looked, first.2.Attempted probe.client asked look looked ∧
          ended.2.wire = second.2 ∧
          match looked with
          | none =>
            ended.1 = .error .waiting ∧
            ended.2.report.written = written ++ Utf8.encode (String.join (pieces greeting)).toList ∧
            acts = entering ++ reporting greeting ++ looking
          | some (.error error) =>
            ended.1 = .error (.failed error) ∧
            ended.2.report.written = written ++ Utf8.encode (String.join (pieces greeting)).toList ∧
            acts = entering ++ reporting greeting ++ looking
          | some (.ok answer) =>
            ended.1 = .ok () ∧
            ended.2.report.written = written ++ Utf8.encode (String.join (pieces greeting)).toList
              ++ Utf8.encode (String.join (pieces answer)).toList ∧
            acts = entering ++ reporting greeting ++ looking ++ reporting answer := by
  -- Both endpoints have a URL on every target.
  obtain ⟨login, loginFound⟩ := Url.exists_endpointUrl accepted
    (show Url.isPlainPath Errand.login.path by decide)
  obtain ⟨health, healthFound⟩ := Url.exists_endpointUrl accepted
    (show Url.isPlainPath healthPath by decide)
  refine ⟨login, health, loginFound, healthFound, ?_⟩
  intro work enter look first second asked pieces ended acts entering looking reporting
  have askedFound : endpointUrl probe.target asked.path = .ok health := healthFound
  have attempted := wire.attempted probe.client .login enter
  have attemptedNext := first.2.attempted probe.client asked look
  match entered : Errand.login.outcome login first.1 with
  | none =>
    rw [show Errand.login.outcome enter.url first.1 = none from entered] at attempted
    have stopped : Plan.resolved (Errand.login.outcome login first.1) = .error .waiting := by rw [entered]; rfl
    rw [show ended = _ from run_session_stop loginFound stopped]
    exact ⟨fun limited => absurd attempted.timeLimit_eq_none limited, none, attempted, rfl, rfl, rfl,
      acts_session_stop loginFound stopped⟩
  | some (.error error) =>
    rw [show Errand.login.outcome enter.url first.1 = some (.error error) from entered] at attempted
    have stopped : Plan.resolved (Errand.login.outcome login first.1) = .error (.failed error) := by
      rw [entered]
      rfl
    rw [show ended = _ from run_session_stop loginFound stopped]
    exact ⟨fun _ => nofun, some (.error error), attempted, rfl, rfl, rfl, acts_session_stop loginFound stopped⟩
  | some (.ok greeting) =>
    rw [show Errand.login.outcome enter.url first.1 = some (.ok greeting) from entered] at attempted
    have ran : ended = (probe.step asked).run verbosity ⟨first.2, _, ⟨_, none⟩⟩ :=
      run_session_ok loginFound entered
    have did : acts = entering ++ reporting greeting ++
        (probe.step asked).acts verbosity ⟨first.2, _, ⟨_, none⟩⟩ := acts_session_ok loginFound entered
    -- The second step starts with the jar, the script and the report that the first one leaves.
    match looked : asked.outcome health second.1 with
    | none =>
      rw [show asked.outcome look.url second.1 = none from looked] at attemptedNext
      have stopped : Plan.resolved (asked.outcome health second.1) = .error .waiting := by rw [looked]; rfl
      rw [ran, did, run_step_stop askedFound stopped, acts_step_stop askedFound stopped]
      exact ⟨fun limited => absurd attemptedNext.timeLimit_eq_none limited, some (.ok greeting), attempted,
        none, attemptedNext, rfl, rfl, rfl, rfl⟩
    | some (.error error) =>
      rw [show asked.outcome look.url second.1 = some (.error error) from looked] at attemptedNext
      have stopped : Plan.resolved (asked.outcome health second.1) = .error (.failed error) := by
        rw [looked]
        rfl
      rw [ran, did, run_step_stop askedFound stopped, acts_step_stop askedFound stopped]
      exact ⟨fun _ => nofun, some (.ok greeting), attempted, some (.error error), attemptedNext, rfl, rfl, rfl, rfl⟩
    | some (.ok answer) =>
      rw [show asked.outcome look.url second.1 = some (.ok answer) from looked] at attemptedNext
      rw [ran, did, run_step_ok askedFound looked, acts_step_ok askedFound looked]
      exact ⟨fun _ => nofun, some (.ok greeting), attempted, some (.ok answer), attemptedNext, rfl, rfl, rfl,
        (List.append_assoc ..).symm⟩

/-- A cookie for another server is reported though it is not kept, and none is reported twice. -/
theorem session_reports_refused_cookie : Url.loopback.IsTarget ∧
    let probe : Probe := ⟨Url.loopback, ⟨"agent", "secret"⟩, ⟨[], none, .plain⟩⟩
    let greeting : Answer := ⟨200, [("Set-Cookie", "sid=1"), ("Set-Cookie", "far=2; Domain=example.org")],
      [0x68, 0x69], none⟩
    let answers : List Answer := [greeting, ⟨500, [], [0x6E, 0x6F], none⟩]
    let ended := probe.session.run .off ⟨⟨.scripted false answers, .empty 0 .asKept, []⟩, [], ⟨[], none⟩⟩
    ended.1 = .ok () ∧ ended.2.report.written = Utf8.encode
      ("200 hi\ncookies: [sid=1, far=2]\n" ++ "500 no\ncookies: []\n").toList := by
  refine ⟨Url.loopback_isTarget, ?_⟩
  intro probe greeting answers ended
  let wire : Wire := ⟨.scripted false answers, .empty 0 .asKept, []⟩
  obtain ⟨login, health, loginFound, healthFound, _, entered, attempted, turns⟩ :=
    session_reports_each_response (show probe.target.IsTarget from Url.loopback_isTarget) .off wire [] []
  -- The two URLs are the ones that are made from that of the server.
  have loginKnown : .onLoopback ["api", "v1", "user", "login"] = login := Except.ok.inj loginFound
  have healthKnown : .onLoopback ["api", "v1", "private", "health"] = health := Except.ok.inj healthFound
  subst loginKnown healthKnown
  -- Both requests are answered, each in its own turn of the script.
  obtain rfl : entered = some (.ok ⟨200, ["sid=1", "far=2"], "hi"⟩) :=
    attempted.outcome_eq.trans (by decide +kernel)
  obtain ⟨looked, attemptedNext, _, turns⟩ := turns
  obtain rfl : looked = some (.ok ⟨500, [], "no"⟩) := attemptedNext.outcome_eq.trans (by decide +kernel)
  obtain ⟨finished, wrote, _⟩ := turns
  exact ⟨finished, wrote.trans (by decide +kernel)⟩

end Probe

end AccessProbe
