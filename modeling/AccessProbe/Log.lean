/-! Log records and log levels. -/

namespace AccessProbe

/-- The level of a log record. -/
inductive Severity where
  | error
  | warn
  | info
  | debug
  deriving DecidableEq, Repr

/-- The log level of a run. -/
inductive Verbosity where
  | off
  | error
  | warn
  | info
  | debug
  | trace
  deriving DecidableEq, Repr

/-- The name of a level in the log. -/
def Severity.name : Severity → String
  | .error => "ERROR"
  | .warn => "WARN"
  | .info => "INFO"
  | .debug => "DEBUG"

/-- Levels counted from the most severe one. -/
def Severity.rank : Severity → Nat
  | .error => 1
  | .warn => 2
  | .info => 3
  | .debug => 4

namespace Verbosity

/-- Every log level, from none to all records. -/
def all : List Verbosity := [.off, .error, .warn, .info, .debug, .trace]

def name : Verbosity → String
  | .off => "OFF"
  | .error => "ERROR"
  | .warn => "WARN"
  | .info => "INFO"
  | .debug => "DEBUG"
  | .trace => "TRACE"

/-- The least severe level that is logged, counted as `Severity.rank` does. -/
def rank : Verbosity → Nat
  | .off => 0
  | .error => 1
  | .warn => 2
  | .info => 3
  | .debug => 4
  | .trace => 5

/-- Whether records of a level are logged. -/
def shows (verbosity : Verbosity) (severity : Severity) : Bool := severity.rank ≤ verbosity.rank

/-- The log level that a string names, in upper or lower case. -/
def ofText? (text : String) : Option Verbosity :=
  all.find? fun choice => choice.name.toList == text.toList.map Char.toUpper

end Verbosity

/-- The module that a record comes from. -/
inductive LogSource where
  | program
  | probe
  | authentication
  | session
  deriving DecidableEq, Repr

/-- The name of a module in the log. -/
def LogSource.name : LogSource → String
  | .program => "cenarius_probe"
  | .probe => "cenarius_probe::probe"
  | .authentication => "cenarius_probe::authentication"
  | .session => "cenarius_probe::authentication::session"

/-- A log record. -/
structure LogRecord where
  severity : Severity
  source : LogSource
  message : String
  deriving DecidableEq, Repr

/-- The level and the message of a record. -/
def LogRecord.text (record : LogRecord) : String := record.severity.name ++ " " ++ record.message

/-- A record as a line of the log, with the level padded to five characters. -/
def LogRecord.line (record : LogRecord) : String :=
  -- Levels are padded on the right.
  let weight := record.severity.name
  "[" ++ weight ++ String.ofList (List.replicate (5 - weight.length) ' ') ++ " " ++ record.source.name
    ++ "] " ++ record.message

end AccessProbe
