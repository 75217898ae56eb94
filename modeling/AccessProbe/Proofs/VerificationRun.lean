import AccessProbe.Proofs.Authentication
import AccessProbe.Proofs.VerificationVisits

/-! The verification visits the private paths in order, up to the first one at which it stops. -/

namespace AccessProbe.Verification

variable {verbosity : Verbosity} {wire : Wire} {log : List LogRecord} {written : List UInt8}

/-- The records of `prepareClient`: the warning about the token, where it is due. -/
def warnings (config : Configuration) (authentication : Authentication) : List LogRecord :=
  if showsTokenPlainly config.target authentication then [plainTokenRecord config.target] else []

section Verify

variable {library : Library} {files : Files} {config : Configuration} {client : Client}

/-- To prepare a client logs the warnings and gives what `buildClient` gives. -/
theorem run_prepareClient {authentication : Authentication} {report : Report} :
    (prepareClient library files config authentication).run verbosity ⟨wire, log, report⟩ =
      (.ok (buildClient library files config authentication),
        ⟨wire, log ++ verbosity.kept (warnings config authentication), report⟩) := by
  unfold prepareClient warnings
  -- Either the token is warned about, or nothing is logged.
  split
  · show (Plan.note _ (.done _)).run _ _ = _
    rw [Plan.run, Plan.note_eq]
    rfl
  · simp [Plan.run, pure, Verbosity.kept]

/-- To prepare a client sends nothing. -/
theorem prepareClient_sends (library : Library) (files : Files) (config : Configuration)
    (authentication : Authentication) : (prepareClient library files config authentication).Sends [] := by
  unfold prepareClient
  split
  · exact .note _ (.done _)
  · exact .done _

/-- The plan of the verification behind its client. -/
def begin (config : Configuration) : Except ClientError Client → Plan Unit
  | .error cause => .fail (.initialization cause)
  | .ok client => .write (authenticatorText config.logLevel config.credentials.token)
    (visitAll config client privatePaths >>= fun _ => .say successText)

/-- A verification writes its banner, prepares a client and begins. -/
theorem verify_eq (library : Library) (files : Files) (config : Configuration) : verify library files config =
    .write banner (prepareClient library files config (.ofMode .token config) >>= begin config) := rfl

/-- The state in which the first visit is made. -/
def begun (verbosity : Verbosity) (config : Configuration) (wire : Wire) (log : List LogRecord)
    (written : List UInt8) : Work :=
  ⟨wire, log ++ verbosity.kept (warnings config (.ofMode .token config)),
    ⟨written ++ Utf8.encode (banner ++
      authenticatorText config.logLevel config.credentials.token).toList, none⟩⟩

section Outcome

variable {places before : List (String × Url)} {place : String × Url} {stop : Stop}

end Outcome

end Verify

section Ends

end Ends

end AccessProbe.Verification
