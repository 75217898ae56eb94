import AccessProbe.Proofs.ErrorLine
import AccessProbe.Proofs.Text.Decimal
import AccessProbe.Proofs.TokenRun

/-! The report of a token run can be read back line by line, as long as no body has line ends. -/

namespace AccessProbe

/-- Encoding is injective. -/
theorem Utf8.encode_injective {first second : List Char} (same : encode first = encode second) : first = second := by
  -- Strings are their bytes.
  have bytes : (String.ofList first).toByteArray = (String.ofList second).toByteArray := by
    rw [String.toByteArray_ofList, String.toByteArray_ofList]
    exact congrArg List.toByteArray same
  exact String.ofList_injective (String.toByteArray_inj.mp bytes)

namespace Probe

variable {outcome other : Except ProbeError Received} {outcomes others : List (Except ProbeError Received)}

/-- What the line of an attempt says: status and text, or the error. -/
def told : Except ProbeError Received → Except String (Nat × String)
  | .ok received => .ok (received.status, received.text)
  | .error error => .error error.line

/-- The text of a response, if there is one. -/
def receivedText : Except ProbeError Received → List Char
  | .ok received => received.text.toList
  | .error _ => []

/-- The line of an attempt without its end. -/
def lineText : Except ProbeError Received → List Char
  | .ok received => (toString received.status).toList ++ ' ' :: received.text.toList
  | .error error => "error ".toList ++ error.line.toList

theorem lineText_ok (received : Received) :
    lineText (.ok received) = (toString received.status).toList ++ ' ' :: received.text.toList := rfl

theorem lineText_error (error : ProbeError) : lineText (.error error) = "error ".toList ++ error.line.toList := rfl

/-- The error of an attempt, if there is one, has no line ends. -/
def ToldInLine (outcome : Except ProbeError Received) : Prop :=
  ∀ error, outcome = .error error → '\n' ∉ error.line.toList

/-- The line of an attempt ends with a line end. -/
theorem toList_attemptLine (outcome : Except ProbeError Received) :
    (attemptLine outcome).toList = lineText outcome ++ ['\n'] := by
  cases outcome with
  | ok received => simp [attemptLine, lineText_ok]
  | error error => simp [attemptLine, lineText_error, ProbeError.line]

/-- A number has no line ends. -/
theorem count_toString (number : Nat) : (toString number).toList.count '\n' = 0 := by
  -- It consists of digits.
  apply List.count_eq_zero_of_not_mem
  intro member
  cases (Decimal.toString_digits number).2.1 '\n' member

/-- The line ends within a line are those of the text. -/
theorem count_lineText (inLine : ToldInLine outcome) :
    (lineText outcome).count '\n' = (receivedText outcome).count '\n' := by
  -- Neither the status code nor the error has any.
  cases outcome with
  | ok received =>
    rw [lineText_ok, List.count_append, count_toString, Nat.zero_add]
    rfl
  | error error =>
    rw [lineText_error, receivedText, List.count_append, List.count_eq_zero_of_not_mem (inLine error rfl)]
    decide

/-- The report has one line end per attempt and those of the texts. -/
theorem count_report (inLine : ∀ outcome ∈ outcomes, ToldInLine outcome) :
    (String.join (outcomes.map attemptLine)).toList.count '\n' =
      outcomes.length + (outcomes.flatMap receivedText).count '\n' := by
  -- Each line has its own line feed, and those of the body that it shows.
  induction outcomes with
  | nil => rfl
  | cons outcome rest ih =>
    have here := count_lineText (inLine outcome (.head _))
    have after := ih fun other member => inLine other (.tail _ member)
    rw [List.map_cons, String.join_cons, String.toList_append, toList_attemptLine, List.count_append,
      List.count_append, List.count_singleton_self, here, after, List.flatMap_cons, List.count_append,
      List.length_cons]
    omega

/-- Without line ends in the texts the report splits into the lines of the attempts. -/
theorem splitOn_report (whole : ∀ outcome ∈ outcomes, '\n' ∉ lineText outcome) :
    (String.join (outcomes.map attemptLine)).toList.splitOn '\n' = outcomes.map lineText ++ [[]] := by
  -- Induction on the outcomes, splitting off one line at a time.
  induction outcomes with
  | nil => rfl
  | cons outcome rest ih =>
    rw [List.map_cons, String.join_cons, String.toList_append, toList_attemptLine, List.append_assoc,
      List.singleton_append, List.splitOn_append_cons_self_of_not_mem (whole outcome (.head _)),
      ih fun other member => whole other (.tail _ member)]
    rfl

/-- The start of a line up to its first space determines the status code, and the rest the text. -/
theorem eq_of_digits {first second : Nat} {text rest : List Char}
    (same : (toString first).toList ++ ' ' :: text = (toString second).toList ++ ' ' :: rest) :
    first = second ∧ text = rest := by
  -- The digits at the start of a line are those of the status code, since a space follows them.
  have digits (number : Nat) (text : List Char) :
      ((toString number).toList ++ ' ' :: text).takeWhile Char.isDigit = (toString number).toList := by
    rw [List.takeWhile_append_of_pos (Decimal.toString_digits number).2.1, List.takeWhile_cons_of_neg (by decide),
      List.append_nil]
  have written : (toString first).toList = (toString second).toList := by
    rw [← digits first text, same, digits second rest]
  have number : first = second := by
    rw [← (Decimal.toString_digits first).2.2, written, (Decimal.toString_digits second).2.2]
  rw [written] at same
  exact ⟨number, (List.cons.inj (List.append_cancel_left same)).2⟩

/-- The line of a response is not that of an error. -/
theorem lineText_ok_ne (received : Received) (error : ProbeError) :
    lineText (.ok received) ≠ lineText (.error error) := by
  -- The first one starts with a digit, the second one with a letter.
  obtain ⟨nonempty, decimal, _⟩ := Decimal.toString_digits received.status
  obtain ⟨c, rest, digits⟩ := List.exists_cons_of_ne_nil nonempty
  intro same
  rw [lineText_ok, digits] at same
  obtain rfl : c = 'e' := (List.cons.inj same).1
  cases decimal 'e' (by rw [digits]; exact .head _)

/-- A line determines what it says. -/
theorem told_of_lineText (same : lineText outcome = lineText other) : told outcome = told other := by
  -- Lines of both kinds are told apart by their first character, so both are of one kind.
  cases outcome with
  | ok received =>
    cases other with
    | ok second =>
      obtain ⟨status, text⟩ := eq_of_digits same
      rw [told, told, status, String.toList_injective text]
    | error error => exact absurd same (lineText_ok_ne received error)
  | error error =>
    cases other with
    | ok second => exact absurd same.symm (lineText_ok_ne second error)
    | error second => exact congrArg Except.error (String.toList_injective (List.append_cancel_left same))

/-- So do several lines. -/
theorem map_told_of_lineText (same : outcomes.map lineText = others.map lineText) :
    outcomes.map told = others.map told := by
  -- Line by line, as each one tells its outcome.
  induction outcomes generalizing others with
  | nil => rw [List.map_eq_nil_iff.mp same.symm]
  | cons outcome rest ih =>
    cases others with
    | nil => cases same
    | cons other second =>
      obtain ⟨here, after⟩ := List.cons.inj same
      rw [List.map_cons, List.map_cons, told_of_lineText here, ih after]

/-- No text has line ends. -/
def OneLineEach (outcomes : List (Except ProbeError Received)) : Prop :=
  ∀ outcome ∈ outcomes, '\n' ∉ receivedText outcome

/-- The report has one line per attempt if and only if no text has line ends. -/
theorem count_report_eq_iff (inLine : ∀ outcome ∈ outcomes, ToldInLine outcome) :
    (String.join (outcomes.map attemptLine)).toList.count '\n' = outcomes.length ↔ OneLineEach outcomes := by
  -- By `count_report` there are no others.
  rw [count_report inLine, Nat.add_eq_left, List.count_eq_zero]
  simp only [List.mem_flatMap, not_exists, not_and, OneLineEach]

/-- Without line ends in the texts there are none in the lines. -/
theorem newline_not_mem_lineText (inLine : ∀ outcome ∈ outcomes, ToldInLine outcome)
    (single : OneLineEach outcomes) : ∀ outcome ∈ outcomes, '\n' ∉ lineText outcome := by
  intro outcome member
  rw [← List.count_eq_zero, count_lineText (inLine outcome member)]
  exact List.count_eq_zero.mpr (single outcome member)

/-- A report of single lines determines what it says, among the reports of as many attempts. -/
theorem map_told_of_report (inLine : ∀ outcome ∈ outcomes, ToldInLine outcome)
    (otherInLine : ∀ outcome ∈ others, ToldInLine outcome) (lengths : outcomes.length = others.length)
    (single : OneLineEach outcomes)
    (same : String.join (outcomes.map attemptLine) = String.join (others.map attemptLine)) :
    outcomes.map told = others.map told := by
  -- The other report has the same number of line ends, so its texts have none either.
  have otherSingle : OneLineEach others := by
    rw [← count_report_eq_iff otherInLine, ← same, ← lengths]
    exact (count_report_eq_iff inLine).mpr single
  have lines : outcomes.map lineText ++ [[]] = others.map lineText ++ [[]] := by
    rw [← splitOn_report (newline_not_mem_lineText inLine single), same,
      splitOn_report (newline_not_mem_lineText otherInLine otherSingle)]
  exact map_told_of_lineText (List.append_cancel_right lines)

/-- The errors of attempts on endpoints have no line ends. -/
theorem Attempts.toldInLine {probe : Probe} {wire : Wire} {places : List (String × Url)}
    (attempts : probe.Attempts wire places outcomes) (accepted : probe.target.IsTarget)
    (found : ∀ place ∈ places, endpointUrl probe.target place.1 = .ok place.2) :
    ∀ outcome ∈ outcomes, ToldInLine outcome := by
  -- Attempt by attempt: a response has no error line, and that of a failure is printable.
  induction attempts with
  | nil => exact fun outcome member => by cases member
  | @cons wire place outcome places outcomes first rest ih =>
    refine List.forall_mem_cons.mpr ⟨?_, ih fun place member => found place (.tail _ member)⟩
    rintro error rfl
    -- Redirects may lead anywhere, but URLs are always written in printable characters.
    have printable : (Call.mk place.2 none).url.IsPrintable := accepted.printable_endpointUrl (found place (.head _))
    exact (Errand.printable_line printable first).newline_not_mem

/-- Without a report limit, the report of a token run has one line per path in order, except for the line ends
of the texts: there are three line ends and those of the texts. Without line ends in the texts it splits into
three lines, each about its own attempt, and any other run with the same report has the same status codes,
texts and errors. All attempts have outcomes if the client has a time limit, and otherwise if no response is
awaited for ever. -/
theorem token_report_reads_back {probe : Probe} (accepted : probe.target.IsTarget) (verbosity : Verbosity) :
    ∃ places : List (String × Url),
      places.map Prod.fst = ["api/v1/private/health", "api/v1/private/loginwithpasswords",
        "api/v1/private/creditcards"] ∧
      (∀ place ∈ places, endpointUrl probe.target place.1 = .ok place.2) ∧
      ∀ (wire : Wire) (log : List LogRecord),
        let ended := fun wire log => probe.token.run verbosity ⟨wire, log, .empty none⟩
        let written := fun wire log => (ended wire log).2.report.written
        ((ended wire log).1 ≠ .error .waiting → ∃ outcomes, probe.Attempts wire places outcomes) ∧
        (probe.client.timeLimit ≠ none → (ended wire log).1 ≠ .error .waiting) ∧
        ∀ outcomes, probe.Attempts wire places outcomes →
          let report := (String.join (outcomes.map attemptLine)).toList
          outcomes.length = 3 ∧ written wire log = Utf8.encode report ∧
          report.count '\n' = 3 + (outcomes.flatMap receivedText).count '\n' ∧
          (OneLineEach outcomes → report.splitOn '\n' = outcomes.map lineText ++ [[]] ∧
            ∀ otherWire otherLog others, probe.Attempts otherWire places others →
              written otherWire otherLog = written wire log → others.map told = outcomes.map told) := by
  -- The report is known from `run_token`, so everything is about the lines of the outcomes.
  obtain ⟨places, paths, found⟩ := Url.exists_places accepted
    (show tokenPaths.all Url.isPlainPath by decide)
  have reported {wire : Wire} (log : List LogRecord) {outcomes : List (Except ProbeError Received)}
      (attempts : probe.Attempts wire places outcomes) :
      (probe.token.run verbosity ⟨wire, log, .empty none⟩).2.report.written =
        Utf8.encode (String.join (outcomes.map attemptLine)).toList := by
    rw [Report.empty, run_token found paths attempts, List.nil_append]
  refine ⟨places, paths, found, fun wire log => ?_⟩
  intro ended written
  refine ⟨fun finished => ?_, fun limited => ?_, fun outcomes attempts => ?_⟩
  · -- An attempt that waits for ever would be the end of the run.
    rcases probe.attempts_or_waits wire places with attempts | ⟨before, place, after, outcomes, rfl, waiting⟩
    · exact attempts
    · have waits : (ended wire log).1 = .error .waiting := congrArg Prod.fst (run_token_waiting found paths waiting)
      exact absurd waits finished
  · obtain ⟨outcomes, attempts⟩ := exists_attempts limited wire places
    have ran : ended wire log = _ := run_token found paths attempts
    rw [ran]
    exact ending_ne_waiting _
  intro report
  have inLine := attempts.toldInLine accepted found
  have three := attempts.length_eq_three paths
  refine ⟨three, reported log attempts, ?_, fun single =>
    ⟨?_, fun otherWire otherLog others again same => ?_⟩⟩
  · rw [← three]
    exact count_report inLine
  · exact splitOn_report (newline_not_mem_lineText inLine single)
  · -- Equal bytes are equal strings, and it is enough that one of the two has single lines.
    have texts : report = (String.join (others.map attemptLine)).toList := by
      apply Utf8.encode_injective
      rw [← reported otherLog again, ← reported log attempts]
      exact same.symm
    exact (map_told_of_report inLine (again.toldInLine accepted found) (three.trans (again.length_eq_three paths).symm)
      single (String.toList_injective texts)).symm

/-- The lines of a report with a truncated body and a 401. -/
theorem token_report_of_broken_answer : Url.loopback.IsTarget ∧
    let probe : Probe := ⟨Url.loopback, ⟨"agent", "secret"⟩, ⟨[], none, .plain⟩⟩
    let answers : List Answer := [⟨200, [], [0x6F, 0x6B], none⟩, ⟨200, [], [0x7B], some .truncate⟩,
      ⟨401, [], [], none⟩]
    let ended := (probe.token.run .error ⟨⟨.scripted false answers, .empty 0 .asKept, []⟩, [], .empty none⟩).2
    ∃ report, ended.report.written = Utf8.encode report ∧ report.splitOn '\n' = ["200 ok".toList,
      ("error Error reading the response from http://[::1]:8080/api/v1/private/loginwithpasswords: " ++
        "error decoding response body for url (http://[::1]:8080/api/v1/private/loginwithpasswords): " ++
        "error reading a body from connection: end of file before message length reached").toList,
      "401 ".toList, []] := by
  refine ⟨Url.loopback_isTarget, ?_⟩
  intro probe answers ended
  let wire : Wire := ⟨.scripted false answers, .empty 0 .asKept, []⟩
  obtain ⟨places, paths, found, reads⟩ :=
    token_report_reads_back (show probe.target.IsTarget from Url.loopback_isTarget) .error
  -- The URLs are known, so that the outcomes can be computed.
  obtain rfl := places_on_loopback paths found
  let broken : ProbeError := .reading (.onLoopback ["api", "v1", "private", "loginwithpasswords"])
    ⟨.onLoopback ["api", "v1", "private", "loginwithpasswords"], .truncated⟩
  obtain ⟨exist, _, reads⟩ := reads wire []
  obtain ⟨outcomes, attempts⟩ := exist (by decide +kernel)
  have ends : outcomes = [.ok ⟨200, [], "ok"⟩, .error broken, .ok ⟨401, [], ""⟩] :=
    attempts.outcomes_eq.trans (by decide +kernel)
  have chain : broken.chain = [
      "Error reading the response from http://[::1]:8080/api/v1/private/loginwithpasswords",
      "error decoding response body for url (http://[::1]:8080/api/v1/private/loginwithpasswords)",
      "error reading a body from connection", "end of file before message length reached"] := by decide +kernel
  -- The line is put together from these strings, since evaluating all of it at once is slow.
  have line : "error " ++ broken.line =
      "error Error reading the response from http://[::1]:8080/api/v1/private/loginwithpasswords: " ++
        "error decoding response body for url (http://[::1]:8080/api/v1/private/loginwithpasswords): " ++
        "error reading a body from connection: end of file before message length reached" := by
    simp [ProbeError.line, chain, String.intercalate_cons_cons]
  obtain ⟨_, written, _, single⟩ := reads outcomes attempts
  rw [ends] at written single
  obtain ⟨lines, _⟩ := single (by unfold OneLineEach; simp [receivedText])
  refine ⟨_, written, lines.trans ?_⟩
  rw [← line, String.toList_append]
  have first : lineText (.ok ⟨200, [], "ok"⟩) = "200 ok".toList := by decide
  have last : lineText (.ok ⟨401, [], ""⟩) = "401 ".toList := by decide
  rw [List.map_cons, List.map_cons, List.map_cons, first, last, lineText_error]
  rfl

/-- With a line end in a text, two runs with different texts have the same report of four lines. -/
theorem token_report_hides_line_ends :
    let probe : Probe := ⟨Url.loopback, ⟨"agent", "secret"⟩, ⟨[], none, .plain⟩⟩
    let places := [
      ("api/v1/private/health", Url.onLoopback ["api", "v1", "private", "health"]),
      ("api/v1/private/loginwithpasswords", .onLoopback ["api", "v1", "private", "loginwithpasswords"]),
      ("api/v1/private/creditcards", .onLoopback ["api", "v1", "private", "creditcards"])]
    let wire := fun texts : List String => (⟨.scripted false
      (texts.map fun text => ⟨200, [], Utf8.encode text.toList, none⟩), .empty 0 .asKept, []⟩ : Wire)
    let first := wire ["x\n200 y", "z", "w"]
    let second := wire ["x", "y\n200 z", "w"]
    let report := fun wire => (probe.token.run .error ⟨wire, [], .empty none⟩).2.report.written
    let outcomes : List (Except ProbeError Received) :=
      [.ok ⟨200, [], "x\n200 y"⟩, .ok ⟨200, [], "z"⟩, .ok ⟨200, [], "w"⟩]
    let others : List (Except ProbeError Received) :=
      [.ok ⟨200, [], "x"⟩, .ok ⟨200, [], "y\n200 z"⟩, .ok ⟨200, [], "w"⟩]
    places.map Prod.fst = tokenPaths ∧ (∀ place ∈ places, endpointUrl probe.target place.1 = .ok place.2) ∧
      report first = Utf8.encode "200 x\n200 y\n200 z\n200 w\n".toList ∧ report second = report first ∧
      probe.Attempts first places outcomes ∧ probe.Attempts second places others ∧
      outcomes.map told ≠ others.map told := by
  intro probe places wire first second report outcomes others
  -- Both runs are evaluated; the attempts are checked against their replies.
  refine ⟨rfl, by decide +kernel, by decide +kernel, by decide +kernel, attempts_iff.mpr ?_, attempts_iff.mpr ?_, ?_⟩
  · decide +kernel
  · decide +kernel
  · decide +kernel

end Probe

end AccessProbe
