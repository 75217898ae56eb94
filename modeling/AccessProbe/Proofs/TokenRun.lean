import AccessProbe.Proofs.Outcome

/-! A token run attempts all of its paths, and its report, log and result agree on the failures. -/

namespace AccessProbe

namespace Probe

variable {verbosity : Verbosity} {wire : Wire} {log : List LogRecord} {written : List UInt8}

/-- The line of an attempt: status and text of the response, or the error with its causes. -/
def attemptLine : Except ProbeError Received → String
  | .ok received => toString received.status ++ " " ++ received.text ++ "\n"
  | .error error => "error " ++ String.intercalate ": " error.chain ++ "\n"

/-- The log record for the outcome of an attempt. -/
def endRecord : Except ProbeError Received → LogRecord
  | .ok received => statusRecord received
  | .error error => failureRecord error

/-- The error of an attempt. -/
def failure? : Except ProbeError Received → Option ProbeError
  | .ok _ => none
  | .error error => some error

/-- The outcomes of attempts on these paths, one after the other. -/
inductive Attempts (probe : Probe) : Wire → List (String × Url) → List (Except ProbeError Received) → Prop where
  /-- There are no paths. -/
  | nil (wire : Wire) : Attempts probe wire [] []
  /-- The first attempt has its outcome, and the others follow over the wire that it leaves. -/
  | cons {wire : Wire} {place : String × Url} {outcome : Except ProbeError Received}
    {places : List (String × Url)} {outcomes : List (Except ProbeError Received)}
    (first : wire.Attempted probe.client (.look place.1) ⟨place.2, none⟩ (some outcome))
    (rest : Attempts probe (wire.send probe.client ⟨place.2, none⟩).2 places outcomes) :
    Attempts probe wire (place :: places) (outcome :: outcomes)

/-- The attempts before this path have outcomes, and the one on it waits for ever. -/
structure WaitsAt (probe : Probe) (wire : Wire) (before : List (String × Url)) (place : String × Url)
    (outcomes : List (Except ProbeError Received)) : Prop where
  /-- The attempts before have these outcomes. -/
  passed : probe.Attempts wire before outcomes
  /-- This one has none. -/
  waits : (wire.sendAll (probe.client.looks before)).2.Attempted probe.client (.look place.1) ⟨place.2, none⟩ none

/-- The log record before a GET request. -/
def lookRecord (url : Url) : LogRecord := ⟨.debug, .probe, "GET " ++ url.text⟩

/-- The log records of attempts with their outcomes. -/
def lookRecords (places : List (String × Url)) (outcomes : List (Except ProbeError Received)) :
    List LogRecord :=
  (places.zip outcomes).flatMap fun (place, outcome) => [lookRecord place.2, endRecord outcome]

theorem lookRecords_cons (place : String × Url) (places : List (String × Url))
    (outcome : Except ProbeError Received) (outcomes : List (Except ProbeError Received)) :
    lookRecords (place :: places) (outcome :: outcomes) =
      [lookRecord place.2, endRecord outcome] ++ lookRecords places outcomes := rfl

/-- The line of the first attempt comes before the others. -/
theorem toList_attemptLines_cons (outcome : Except ProbeError Received)
    (outcomes : List (Except ProbeError Received)) : (String.join ((outcome :: outcomes).map attemptLine)).toList =
      (attemptLine outcome).toList ++ (String.join (outcomes.map attemptLine)).toList := by
  -- Joining appends from the left.
  rw [List.map_cons, String.join_cons, String.toList_append]

/-- An attempt on a path with its report. -/
def trial (probe : Probe) (path : String) : Plan Nat := do reportAttempt (← probe.attempt (.look path))

/-- Reporting an attempt writes its line, logs its outcome and counts its failure. -/
theorem run_reportAttempt (outcome : Except ProbeError Received) :
    (reportAttempt outcome).run verbosity ⟨wire, log, ⟨written, none⟩⟩ =
      (.ok ([outcome].filterMap failure?).length,
        ⟨wire, log ++ verbosity.kept [endRecord outcome],
          ⟨written ++ Utf8.encode (attemptLine outcome).toList, none⟩⟩) := by
  -- A response is logged and then reported, and so is an error.
  cases outcome with
  | ok received =>
    show (Plan.note (statusRecord received) (.write (responseLine received) (.done 0))).run _ _ = _
    rw [Plan.run, Plan.note_eq]
    rfl
  | error error =>
    show (Plan.note (failureRecord error) (.write (errorLine error) (.done 1))).run _ _ = _
    rw [Plan.run, Plan.note_eq]
    rfl

/-- There is one outcome per path. -/
theorem Attempts.length_eq {probe : Probe} {places : List (String × Url)}
    {outcomes : List (Except ProbeError Received)} (attempts : probe.Attempts wire places outcomes) :
    outcomes.length = places.length := by
  induction attempts with
  | nil => rfl
  | cons _ _ ih => exact congrArg Nat.succ ih

/-- The outcomes of attempts are determined by the replies to their requests. -/
theorem attempts_iff {probe : Probe} {places : List (String × Url)} {outcomes : List (Except ProbeError Received)} :
    probe.Attempts wire places outcomes ↔
      List.zipWith (fun place reply => (Errand.look place.1).outcome place.2 reply) places
        (wire.sendAll (probe.client.looks places)).1 = outcomes.map some := by
  -- Induction on the attempts, and on the paths for the way back.
  constructor
  · intro attempts
    induction attempts with
    | nil => rfl
    | @cons wire place outcome places outcomes first rest ih =>
      have here : (Errand.look place.1).outcome place.2 (wire.send probe.client ⟨place.2, none⟩).1 = some outcome :=
        first.outcome_eq.symm
      -- The first reply gives the first outcome, and the rest is the induction hypothesis.
      simp only [Client.looks, List.map_cons, Wire.sendAll, List.zipWith_cons_cons, here]
      exact congrArg (some outcome :: ·) ih
  · intro replied
    induction places generalizing wire outcomes with
    | nil =>
      obtain rfl : outcomes = [] := List.map_eq_nil_iff.mp replied.symm
      exact .nil wire
    | cons place rest ih =>
      simp only [Client.looks, List.map_cons, Wire.sendAll, List.zipWith_cons_cons] at replied
      obtain ⟨outcome, others, rfl, here, after⟩ := List.map_eq_cons_iff.mp replied.symm
      have first := wire.attempted probe.client (.look place.1) ⟨place.2, none⟩
      rw [← here] at first
      exact .cons first (ih after.symm)

/-- So they are unique. -/
theorem Attempts.outcomes_eq {probe : Probe} {places : List (String × Url)}
    {outcomes : List (Except ProbeError Received)} (attempts : probe.Attempts wire places outcomes) :
    outcomes = (List.zipWith (fun place reply => (Errand.look place.1).outcome place.2 reply) places
      (wire.sendAll (probe.client.looks places)).1).filterMap id := by
  -- The replies are known from `attempts_iff`.
  rw [attempts_iff.mp attempts, List.filterMap_map]
  exact List.filterMap_some.symm

/-- Either every attempt has an outcome, or there is a first one that waits for ever. -/
theorem attempts_or_waits (probe : Probe) (wire : Wire) (places : List (String × Url)) :
    (∃ outcomes, probe.Attempts wire places outcomes) ∨
      ∃ before place after outcomes, places = before ++ place :: after ∧
        probe.WaitsAt wire before place outcomes := by
  -- Each attempt has an outcome or waits for ever, and the later ones start where it has left the wire.
  induction places generalizing wire with
  | nil => exact .inl ⟨[], .nil wire⟩
  | cons place rest ih =>
    have first := wire.attempted probe.client (.look place.1) ⟨place.2, none⟩
    -- If the first attempt waits for ever the others are never made.
    cases here : (Errand.look place.1).outcome place.2 (wire.send probe.client ⟨place.2, none⟩).1 with
    | none =>
      rw [here] at first
      exact .inr ⟨[], place, rest, [], rfl, .nil wire, first⟩
    | some outcome =>
      rw [here] at first
      rcases ih (wire.send probe.client ⟨place.2, none⟩).2 with ⟨outcomes, others⟩ |
        ⟨before, later, after, outcomes, rfl, others, waits⟩
      · exact .inl ⟨_, .cons first others⟩
      · exact .inr ⟨place :: before, later, after, _, rfl, .cons first others, waits⟩

/-- An attempt waits for ever only without a time limit. -/
theorem WaitsAt.timeLimit_eq_none {probe : Probe} {before : List (String × Url)} {place : String × Url}
    {outcomes : List (Except ProbeError Received)} (waiting : probe.WaitsAt wire before place outcomes) :
    probe.client.timeLimit = none :=
  waiting.waits.timeLimit_eq_none

/-- With a time limit every attempt has an outcome. -/
theorem exists_attempts {probe : Probe} (limited : probe.client.timeLimit ≠ none) (wire : Wire)
    (places : List (String × Url)) : ∃ outcomes, probe.Attempts wire places outcomes := by
  -- An attempt that waits for ever would contradict the time limit.
  rcases probe.attempts_or_waits wire places with attempts | ⟨_, _, _, _, _, waiting⟩
  · exact attempts
  · exact absurd waiting.timeLimit_eq_none limited

section Count

variable {probe : Probe} {places before after : List (String × Url)} {place : String × Url}
  {outcome : Except ProbeError Received} {outcomes others : List (Except ProbeError Received)}

/-- Reporting an attempt sends nothing. -/
theorem reportAttempt_sends (outcome : Except ProbeError Received) : (reportAttempt outcome).Sends [] :=
  match outcome with
  | .ok _ => (report_sends _).bind_nil fun _ => .done 0
  | .error _ => .note _ (.write _ (.done 1))

/-- A trial whose attempt has an outcome writes its line, logs it and counts its failure. -/
theorem run_trial (found : endpointUrl probe.target place.1 = .ok place.2)
    (attempted : wire.Attempted probe.client (.look place.1) ⟨place.2, none⟩ (some outcome)) :
    (probe.trial place.1).run verbosity ⟨wire, log, ⟨written, none⟩⟩ =
      (.ok ([outcome].filterMap failure?).length, ⟨(wire.send probe.client ⟨place.2, none⟩).2,
        log ++ verbosity.kept [lookRecord place.2, endRecord outcome],
        ⟨written ++ Utf8.encode (attemptLine outcome).toList, none⟩⟩) := by
  have here : endpointUrl probe.target (Errand.look place.1).path = .ok place.2 := found
  have call : (Errand.look place.1).call probe.credentials place.2 = ⟨place.2, none⟩ := rfl
  have record : (Errand.look place.1).record probe.credentials place.2 = lookRecord place.2 := rfl
  have told : verbosity.kept [lookRecord place.2, endRecord outcome] =
      verbosity.kept [lookRecord place.2] ++ verbosity.kept [endRecord outcome] := verbosity.kept_append [_] [_]
  -- The outcome is the one that the request has.
  simp only [trial, Plan.run_bind, attempt_eq here, Plan.run, Plan.note_eq, call, ← attempted.outcome_eq,
    Plan.await, run_reportAttempt, record, told, ← List.append_assoc]

/-- A trial whose attempt waits for ever writes nothing. -/
theorem run_trial_waiting (found : endpointUrl probe.target place.1 = .ok place.2)
    (waits : wire.Attempted probe.client (.look place.1) ⟨place.2, none⟩ none) :
    (probe.trial place.1).run verbosity ⟨wire, log, ⟨written, none⟩⟩ =
      (.error .waiting, ⟨(wire.send probe.client ⟨place.2, none⟩).2, log ++ verbosity.kept [lookRecord place.2],
        ⟨written, none⟩⟩) := by
  have here : endpointUrl probe.target (Errand.look place.1).path = .ok place.2 := found
  have call : (Errand.look place.1).call probe.credentials place.2 = ⟨place.2, none⟩ := rfl
  have record : (Errand.look place.1).record probe.credentials place.2 = lookRecord place.2 := rfl
  -- There is no outcome to report.
  simp only [trial, Plan.run_bind, attempt_eq here, Plan.run, Plan.note_eq, call, ← waits.outcome_eq, Plan.await,
    record]

/-- A trial sends one request. -/
theorem requests_trial (found : endpointUrl probe.target place.1 = .ok place.2) (work : Work) :
    (probe.trial place.1).requests verbosity work = [(probe.client, ⟨place.2, none⟩)] := by
  have here : endpointUrl probe.target (Errand.look place.1).path = .ok place.2 := found
  have asked : (probe.attempt (.look place.1)).requests verbosity work = [(probe.client, ⟨place.2, none⟩)] := by
    rw [attempt_eq here]
    exact congrArg (_ :: ·) ((Plan.Sends.await _).requests_eq_nil _)
  -- Reporting the outcome sends nothing.
  rw [trial, Plan.requests_bind, asked]
  split
  · rw [(reportAttempt_sends _).requests_eq_nil, List.append_nil]
  · rw [List.append_nil]

/-- Counting failures is a trial of the first path followed by counting the others. -/
theorem countFailures_cons (probe : Probe) (path : String) (rest : List String) :
    probe.countFailures (path :: rest) = probe.trial path >>= fun failed =>
      probe.countFailures rest >>= fun others => pure (failed + others) := (Plan.bind_assoc ..).symm

/-- Counting failures attempts every path, writes one line for each, logs it and counts its failure. -/
theorem run_countFailures (found : ∀ place ∈ places, endpointUrl probe.target place.1 = .ok place.2)
    (attempts : probe.Attempts wire places outcomes) :
    (probe.countFailures (places.map Prod.fst)).run verbosity ⟨wire, log, ⟨written, none⟩⟩ =
      (.ok (outcomes.filterMap failure?).length,
        ⟨(wire.sendAll (probe.client.looks places)).2, log ++ verbosity.kept (lookRecords places outcomes),
          ⟨written ++ Utf8.encode (String.join (outcomes.map attemptLine)).toList, none⟩⟩) := by
  -- Induction on the attempts, over any log and report, since each of them adds to both.
  induction attempts generalizing log written with
  | nil =>
    simp [countFailures, Plan.run, Client.looks, lookRecords, Verbosity.kept, Wire.sendAll, Utf8.encode, pure]
  | @cons wire place outcome places outcomes first rest ih =>
    rw [List.map_cons, countFailures_cons, Plan.run_bind, run_trial (found place (by simp)) first]
    dsimp only
    rw [Plan.run_bind, ih fun place member => found place (by simp [member])]
    -- The count, the log records and the line of the first attempt come before those of the rest.
    have counted : ((outcome :: outcomes).filterMap failure?).length =
        ([outcome].filterMap failure?).length + (outcomes.filterMap failure?).length := by
      rw [← List.length_append, ← List.filterMap_append, List.singleton_append]
    rw [counted, lookRecords_cons, toList_attemptLines_cons, Utf8.encode_append, Verbosity.kept_append,
      ← List.append_assoc, ← List.append_assoc]
    rfl

/-- If an attempt waits for ever, the ones before it are reported and the others are not made. -/
theorem run_countFailures_waiting
    (found : ∀ other ∈ before ++ place :: after, endpointUrl probe.target other.1 = .ok other.2)
    (waiting : probe.WaitsAt wire before place outcomes) :
    (probe.countFailures ((before ++ place :: after).map Prod.fst)).run verbosity
      ⟨wire, log, ⟨written, none⟩⟩ =
      (.error .waiting, ⟨(wire.sendAll (probe.client.looks (before ++ [place]))).2,
        log ++ verbosity.kept (lookRecords before outcomes ++ [lookRecord place.2]),
        ⟨written ++ Utf8.encode (String.join (outcomes.map attemptLine)).toList, none⟩⟩) := by
  obtain ⟨passed, waits⟩ := waiting
  -- Induction on the attempts before; the wait comes after them.
  induction passed generalizing log written with
  | nil wire =>
    have here : wire.Attempted probe.client (.look place.1) ⟨place.2, none⟩ none := waits
    rw [List.nil_append, List.map_cons, countFailures_cons, Plan.run_bind,
      run_trial_waiting (found place (by simp)) here]
    simp [Client.looks, Wire.sendAll, lookRecords, Utf8.encode]
  | @cons wire other outcome places outcomes first rest ih =>
    rw [List.cons_append, List.map_cons, countFailures_cons, Plan.run_bind, run_trial (found other (by simp)) first]
    dsimp only
    rw [Plan.run_bind, ih (fun later member => found later (List.mem_cons_of_mem _ member)) waits,
      lookRecords_cons, toList_attemptLines_cons, Utf8.encode_append, List.append_assoc [_, _],
      Verbosity.kept_append verbosity [_, _], ← List.append_assoc, ← List.append_assoc]
    rfl

/-- If an attempt waits for ever, the requests are those up to it. -/
theorem requests_countFailures_waiting
    (found : ∀ other ∈ before ++ place :: after, endpointUrl probe.target other.1 = .ok other.2)
    (waiting : probe.WaitsAt wire before place outcomes) :
    (probe.countFailures ((before ++ place :: after).map Prod.fst)).requests verbosity
      ⟨wire, log, ⟨written, none⟩⟩ = probe.client.looks (before ++ [place]) := by
  -- The attempts before the one that waits make their requests, and behind it there are none.
  obtain ⟨passed, waits⟩ := waiting
  induction passed generalizing log written with
  | nil wire =>
    have here : wire.Attempted probe.client (.look place.1) ⟨place.2, none⟩ none := waits
    rw [List.nil_append, List.map_cons, countFailures_cons, Plan.requests_bind,
      requests_trial (found place (by simp)), run_trial_waiting (found place (by simp)) here]
    rfl
  | @cons wire other outcome places outcomes first rest ih =>
    rw [List.cons_append, List.map_cons, countFailures_cons, Plan.requests_bind,
      requests_trial (found other (by simp)), run_trial (found other (by simp)) first]
    dsimp only
    -- Adding up the failures sends nothing.
    have foundLater := fun later member => found later (List.mem_cons_of_mem other member)
    rw [Plan.requests_bind, ih foundLater waits, run_countFailures_waiting foundLater ⟨rest, waits⟩]
    exact congrArg (_ :: ·) (List.append_nil _)

end Count

/-- Counting failures sends one request per path, in order. -/
theorem countFailures_sends {probe : Probe} {places : List (String × Url)}
    (found : ∀ place ∈ places, endpointUrl probe.target place.1 = .ok place.2) :
    (probe.countFailures (places.map Prod.fst)).Sends (probe.client.looks places) := by
  -- Each attempt sends one request, and its report sends none.
  induction places with
  | nil => exact .done 0
  | cons place rest ih =>
    have here : endpointUrl probe.target (Errand.look place.1).path = .ok place.2 := found place (by simp)
    have first := attempt_sends here
    have others := ih fun place member => found place (by simp [member])
    exact first.bind fun outcome => (reportAttempt_sends outcome).bind fun _ =>
      others.bind_nil fun _ => .done _

/-- The messages of the error records. -/
def errorTexts (records : List LogRecord) : List String :=
  (records.filter fun record => record.severity = .error).map LogRecord.message

/-- Error records are shown unless the log is off. -/
theorem errorTexts_kept (verbosity : Verbosity) (records : List LogRecord) :
    errorTexts (verbosity.kept records) =
      if verbosity.shows .error then errorTexts records else [] := by
  -- Whether a record is shown depends on its severity only, which is the same for all errors.
  unfold errorTexts Verbosity.kept
  rw [List.filter_filter]
  split
  · rename_i wanted
    congr 1
    apply List.filter_congr
    intro record _
    by_cases failure : record.severity = .error
    · simp [failure, wanted]
    · simp [failure]
  · rename_i unwanted
    rw [List.map_eq_nil_iff, List.filter_eq_nil_iff]
    intro record _
    by_cases failure : record.severity = .error
    · simp [failure, unwanted]
    · simp [failure]

/-- The error records of attempts are their failures, in order. -/
theorem errorTexts_lookRecords {places : List (String × Url)}
    {outcomes : List (Except ProbeError Received)} (lengths : outcomes.length = places.length) :
    errorTexts (lookRecords places outcomes) = (outcomes.filterMap failure?).map ProbeError.line := by
  -- Induction on the outcomes; of the two records of an attempt only the second one may be an error.
  induction outcomes generalizing places with
  | nil =>
    rw [lookRecords, List.zip_nil_right]
    rfl
  | cons outcome others ih =>
    cases places with
    | nil => cases lengths
    | cons place rest =>
      have after := ih (Nat.succ.inj lengths)
      cases outcome with
      | ok received => exact after
      | error error => exact congrArg (error.line :: ·) after

/-- The result of a token run with these failures. -/
def ending : List ProbeError → Except Unfinished Unit
  | [] => .ok ()
  | failures@(_ :: _) => .error (.failed (.incomplete failures.length))

/-- It is a success if and only if there are none. -/
theorem ending_eq_ok {failures : List ProbeError} : ending failures = .ok () ↔ failures = [] := by
  cases failures with
  | nil => simp [ending]
  | cons failure others => simp [ending]

/-- The message of the error with the number of failures. -/
theorem chain_incomplete (failed : Nat) : (ProbeError.incomplete failed).chain =
    [toString failed ++ " of 3 requests could not be completed"] := by
  -- The string is appended from the left.
  rw [ProbeError.chain, String.append_assoc, String.append_assoc]
  rfl

/-- It is never to wait for ever. -/
theorem ending_ne_waiting (failures : List ProbeError) : ending failures ≠ .error .waiting := by
  cases failures with
  | nil => exact nofun
  | cons failure others => exact nofun

/-- With failures it is the error with their number. -/
theorem ending_of_ne_nil {failures : List ProbeError} (some : failures ≠ []) :
    ∃ error, ending failures = .error (.failed error) ∧
      error.chain = [toString failures.length ++ " of 3 requests could not be completed"] := by
  cases failures with
  | nil => exact absurd rfl some
  | cons failure others => exact ⟨_, rfl, chain_incomplete _⟩

section Token

variable {probe : Probe} {places before after : List (String × Url)} {place : String × Url}
  {outcomes : List (Except ProbeError Received)}

/-- The run of a token task whose attempts have outcomes. -/
theorem run_token (found : ∀ place ∈ places, endpointUrl probe.target place.1 = .ok place.2)
    (paths : places.map Prod.fst = tokenPaths) (attempts : probe.Attempts wire places outcomes) :
    probe.token.run verbosity ⟨wire, log, ⟨written, none⟩⟩ =
      (ending (outcomes.filterMap failure?),
        ⟨(wire.sendAll (probe.client.looks places)).2, log ++ verbosity.kept (lookRecords places outcomes),
          ⟨written ++ Utf8.encode (String.join (outcomes.map attemptLine)).toList, none⟩⟩) := by
  -- The number of failures decides the result.
  rw [token, ← paths, Plan.run_bind, run_countFailures found attempts]
  cases outcomes.filterMap failure? with
  | nil => rfl
  | cons failure others => rfl

/-- Its attempts are three. -/
theorem Attempts.length_eq_three {wire : Wire} {places : List (String × Url)}
    (attempts : probe.Attempts wire places outcomes) (paths : places.map Prod.fst = tokenPaths) :
    outcomes.length = 3 := by
  rw [attempts.length_eq, ← List.length_map Prod.fst, paths]
  rfl

/-- It sends one request per path, whatever the outcomes are. -/
theorem requests_token (found : ∀ place ∈ places, endpointUrl probe.target place.1 = .ok place.2)
    (paths : places.map Prod.fst = tokenPaths) (attempts : probe.Attempts wire places outcomes) :
    probe.token.requests verbosity ⟨wire, log, ⟨written, none⟩⟩ = probe.client.looks places := by
  -- Counting returns, so it has sent all of its requests.
  rw [token, ← paths, Plan.requests_bind, run_countFailures found attempts,
    (countFailures_sends found).toTheEnd verbosity _ _ _ (run_countFailures found attempts)]
  cases outcomes.filterMap failure? with
  | nil => exact List.append_nil _
  | cons failure others => exact List.append_nil _

/-- The run of a token task whose attempts wait for ever at some path. -/
theorem run_token_waiting
    (found : ∀ other ∈ before ++ place :: after, endpointUrl probe.target other.1 = .ok other.2)
    (paths : (before ++ place :: after).map Prod.fst = tokenPaths)
    (waiting : probe.WaitsAt wire before place outcomes) :
    probe.token.run verbosity ⟨wire, log, ⟨written, none⟩⟩ =
      (.error .waiting, ⟨(wire.sendAll (probe.client.looks (before ++ [place]))).2,
        log ++ verbosity.kept (lookRecords before outcomes ++ [lookRecord place.2]),
        ⟨written ++ Utf8.encode (String.join (outcomes.map attemptLine)).toList, none⟩⟩) := by
  -- It ends where the counting does.
  rw [token, ← paths, Plan.run_bind, run_countFailures_waiting found waiting]

/-- It sends the requests up to that path. -/
theorem requests_token_waiting
    (found : ∀ other ∈ before ++ place :: after, endpointUrl probe.target other.1 = .ok other.2)
    (paths : (before ++ place :: after).map Prod.fst = tokenPaths)
    (waiting : probe.WaitsAt wire before place outcomes) :
    probe.token.requests verbosity ⟨wire, log, ⟨written, none⟩⟩ = probe.client.looks (before ++ [place]) := by
  -- It ends where the counting does.
  rw [token, ← paths, Plan.requests_bind, requests_countFailures_waiting found waiting,
    run_countFailures_waiting found waiting, List.append_nil]

end Token

/-- The places of a token run on the loopback target. -/
theorem places_on_loopback {places : List (String × Url)} (paths : places.map Prod.fst = tokenPaths)
    (found : ∀ place ∈ places, endpointUrl Url.loopback place.1 = .ok place.2) : places = [
      ("api/v1/private/health", .onLoopback ["api", "v1", "private", "health"]),
      ("api/v1/private/loginwithpasswords", .onLoopback ["api", "v1", "private", "loginwithpasswords"]),
      ("api/v1/private/creditcards", .onLoopback ["api", "v1", "private", "creditcards"])] := by
  -- The paths determine the URLs.
  refine Url.places_unique paths found ?_
  simp only [List.forall_mem_cons]
  exact ⟨rfl, rfl, rfl, by simp⟩

/-- A token run requests three paths in order, each whatever the outcomes before it are, and writes one line
for each, with status and text of the response or the error. It succeeds if and only if no attempt failed.
Otherwise its error has the number of failures, and the error records are theirs. Only a client without a time
limit may wait for ever for an outcome, and then the lines of the attempts before it are written. -/
theorem token_reports_every_attempt {probe : Probe} (accepted : probe.target.IsTarget)
    (verbosity : Verbosity) (wire : Wire) (log : List LogRecord) (written : List UInt8) :
    ∃ places : List (String × Url),
      places.map Prod.fst = ["api/v1/private/health", "api/v1/private/loginwithpasswords",
        "api/v1/private/creditcards"] ∧
      (∀ place ∈ places, endpointUrl probe.target place.1 = .ok place.2) ∧
      let work : Work := ⟨wire, log, ⟨written, none⟩⟩
      let requests := probe.token.requests verbosity work
      let ended := probe.token.run verbosity work
      let lines (outcomes : List (Except ProbeError Received)) := Utf8.encode (String.join (outcomes.map fun
        | .ok received => toString received.status ++ " " ++ received.text ++ "\n"
        | .error error => "error " ++ String.intercalate ": " error.chain ++ "\n")).toList
      ended.2.wire = (wire.sendAll requests).2 ∧
      (probe.client.timeLimit ≠ none → ended.1 ≠ .error .waiting) ∧
      (ended.1 ≠ .error .waiting → ∃ outcomes, probe.Attempts wire places outcomes ∧
        let failures := outcomes.filterMap failure?
        requests = probe.client.looks places ∧
        outcomes.length = 3 ∧
        ended.2.report.written = written ++ lines outcomes ∧
        (ended.1 = .ok () ↔ failures = []) ∧
        (failures ≠ [] → ∃ error, ended.1 = .error (.failed error) ∧
          error.chain = [toString failures.length ++ " of 3 requests could not be completed"]) ∧
        ∃ records, ended.2.log = log ++ records ∧ errorTexts records =
          if verbosity.shows .error then failures.map fun error => String.intercalate ": " error.chain
          else []) ∧
      (ended.1 = .error .waiting → ∃ before place after outcomes, places = before ++ place :: after ∧
        probe.WaitsAt wire before place outcomes ∧ requests = probe.client.looks (before ++ [place]) ∧
        ended.2.report.written = written ++ lines outcomes) := by
  -- Every path has a URL on every target.
  obtain ⟨places, paths, found⟩ := Url.exists_places accepted
    (show tokenPaths.all Url.isPlainPath by decide)
  refine ⟨places, paths, found, ?_⟩
  intro work requests ended lines
  refine ⟨Plan.wire_run _ work, ?_⟩
  rcases probe.attempts_or_waits wire places with ⟨outcomes, attempts⟩ |
    ⟨before, place, after, outcomes, rfl, waiting⟩
  · -- If all attempts have outcomes the run ends.
    have ran : ended = _ := run_token found paths attempts
    have asked : requests = _ := requests_token found paths attempts
    have finished : ended.1 ≠ .error .waiting := by
      rw [ran]
      exact ending_ne_waiting _
    refine ⟨fun _ => finished, fun _ => ⟨outcomes, attempts, asked, attempts.length_eq_three paths, ?_⟩,
      fun waits => absurd waits finished⟩
    rw [ran]
    refine ⟨rfl, ending_eq_ok, ending_of_ne_nil, _, rfl, ?_⟩
    rw [errorTexts_kept, errorTexts_lookRecords attempts.length_eq]
    rfl
  · -- Otherwise it waits for ever at the first one without.
    have ran : ended = _ := run_token_waiting found paths waiting
    have asked : requests = _ := requests_token_waiting found paths waiting
    have waits : ended.1 = .error .waiting := by rw [ran]
    refine ⟨fun limited => absurd waiting.timeLimit_eq_none limited, fun finished => absurd waits finished,
      fun _ => ⟨before, place, after, outcomes, rfl, waiting, asked, ?_⟩⟩
    rw [ran]
    rfl

/-- A truncated body is a failure, and a 401 is not. -/
theorem token_counts_broken_answer : Url.loopback.IsTarget ∧
    let probe : Probe := ⟨Url.loopback, ⟨"agent", "secret"⟩, ⟨[], none, .plain⟩⟩
    let answers : List Answer := [⟨200, [], [0x6F, 0x6B], none⟩, ⟨200, [], [0x7B], some .truncate⟩,
      ⟨401, [], [], none⟩]
    let ended := probe.token.run .error ⟨⟨.scripted false answers, .empty 0 .asKept, []⟩, [], ⟨[], none⟩⟩
    ended.2.wire.seen.length = 3 ∧ ∃ error, ended.1 = .error (.failed error) ∧
      error.chain = ["1 of 3 requests could not be completed"] := by
  refine ⟨Url.loopback_isTarget, ?_⟩
  intro probe answers ended
  let wire : Wire := ⟨.scripted false answers, .empty 0 .asKept, []⟩
  obtain ⟨places, paths, found, _, _, reports, _⟩ :=
    token_reports_every_attempt (show probe.target.IsTarget from Url.loopback_isTarget) .error wire [] []
  -- The URLs are known, so that the outcomes can be computed.
  obtain rfl := places_on_loopback paths found
  have finished : ended.1 ≠ .error .waiting := by decide +kernel
  obtain ⟨outcomes, attempts, _, _, _, _, counted, _⟩ := reports finished
  rw [attempts.outcomes_eq] at counted
  obtain ⟨error, failed, chain⟩ := counted (by decide +kernel)
  exact ⟨by decide +kernel, error, failed, chain.trans (by decide +kernel)⟩

end Probe

end AccessProbe
