import AccessProbe.ProbeError
import AccessProbe.Report

/-! The effects of the program as data: what it writes, logs and sends, each step open to what came before. -/

namespace AccessProbe

/-- Why a plan comes to no value. -/
inductive Unfinished where
  /-- It fails. -/
  | failed (error : ProbeError)
  /-- It waits for ever, which takes a server that never answers and a client without a time limit. -/
  | waiting
  deriving DecidableEq, Repr

/-- What the program does, up to a value. A request is open to every reply, or to none at all. -/
inductive Plan (α : Type) where
  /-- The plan is finished. -/
  | done (value : α)
  /-- The plan goes no further. -/
  | stop (cause : Unfinished)
  /-- Writes to the report. -/
  | write (text : String) (next : Plan α)
  /-- Logs a record. -/
  | note (record : LogRecord) (next : Plan α)
  /-- Sends a request and goes on with the reply, or with nothing if none ever comes. -/
  | send (client : Client) (call : Call) (next : Option (Except SendError Reply) → Plan α)

namespace Plan

/-- One plan after the other. -/
def bind {α β : Type} (plan : Plan α) (rest : α → Plan β) : Plan β :=
  match plan with
  | .done value => rest value
  | .stop cause => .stop cause
  | .write text next => .write text (next.bind rest)
  | .note record next => .note record (next.bind rest)
  | .send client call next => .send client call fun reply => (next reply).bind rest

instance : Monad Plan where
  pure := .done
  bind := .bind

/-- Writes a string to the report. -/
def say (text : String) : Plan Unit := .write text (.done ())

/-- Logs a record. -/
def tell (record : LogRecord) : Plan Unit := .note record (.done ())

/-- A plan that fails. -/
abbrev fail {α : Type} (error : ProbeError) : Plan α := .stop (.failed error)

/-- Goes on with a value, and waits for ever if there is none. -/
def await {α : Type} : Option α → Plan α
  | some value => .done value
  | none => .stop .waiting

/-- Sends a request and waits for the reply. -/
def ask (client : Client) (call : Call) : Plan (Except SendError Reply) := .send client call await

/-- A value, or failure with the error in its place. -/
def ofExcept {α : Type} : Except ProbeError α → Plan α
  | .ok value => .done value
  | .error error => .fail error

end Plan

/-- The state that a plan works on. -/
structure Work where
  /-- The network, with the cookies that are kept and the requests that were seen. -/
  wire : Wire
  /-- The records logged so far. -/
  log : List LogRecord
  report : Report

namespace Work

/-- The state before the first act. -/
def start (network : Network) (now : Int) (order : CookieOrder) (room : Option Nat) : Work :=
  ⟨⟨network, .empty now order, []⟩, [], .empty room⟩

/-- Logs a record if the log level shows it. -/
def note (verbosity : Verbosity) (work : Work) (record : LogRecord) : Work :=
  if verbosity.shows record.severity then { work with log := work.log ++ [record] } else work

end Work

/-- Runs a plan, which fails as soon as the report has no room left. -/
def Plan.run {α : Type} (verbosity : Verbosity) : Plan α → Work → Except Unfinished α × Work
  | .done value, work => (.ok value, work)
  | .stop cause, work => (.error cause, work)
  | .write text next, work =>
    let bytes := Utf8.encode text.toList
    -- What still fits is written, so that the report ends in the middle of a string.
    let later := { work with report := work.report.append bytes }
    if work.report.fits bytes.length then next.run verbosity later else (.error (.failed .output), later)
  -- Unlike the report, the log has no limit.
  | .note record next, work => next.run verbosity (work.note verbosity record)
  | .send client call next, work =>
    -- Only the wire changes.
    let (reply, wire) := work.wire.send client call
    (next reply).run verbosity { work with wire }

end AccessProbe
