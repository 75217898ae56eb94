import AccessProbe.CommandLine.Help
import AccessProbe.CommandLine.Parse
import AccessProbe.CommandLine.Task

/-! The program as a whole: its output, its log and its exit code. -/

namespace AccessProbe.CommandLine

/-- Everything that the program depends on besides its arguments. -/
structure World where
  /-- The environment variables. -/
  env : List (String × String)
  files : Files
  /-- The network between the program and the servers. -/
  network : Network
  /-- The time in seconds since the start of 1970, for the age of cookies. -/
  now : Int
  /-- The library that clients are built with. -/
  library : Library

/-- The names of the files that a command line reads, as far as the given files tell. -/
def World.filesNeeded (world : World) (args : List String) : List String :=
  match parse world.env args with
  | .ok (.run _ given) =>
    given.config.toList ++ (match Configuration.load world.files given with
      | .ok config => config.header.toList
      | .error _ => [])
  | _ => []

/-- What a run of the program leaves behind. -/
structure Outcome where
  /-- The exit code, unless the program waits for ever. -/
  exitCode : Option Nat
  /-- What is written to standard output. -/
  output : List UInt8
  /-- What is written to standard error: log records and the final error. -/
  diagnostics : String
  /-- The network with the cookies and all requests that were seen. -/
  wire : Wire

/-- A string with every line but the first indented. -/
def indented (width : Nat) (text : String) : String :=
  String.ofList (text.toList.flatMap fun c => if c = '\n' then c :: List.replicate width ' ' else [c])

/-- A cause with its number, right-aligned to five columns. -/
def numberedCause (cause : String) (number : Nat) : String :=
  let digits := toString number
  "\n" ++ String.ofList (List.replicate (5 - digits.length) ' ') ++ digits ++ ": " ++ indented 7 cause

/-- The report of an error chain, with numbered causes if there are at least two. -/
def errorText (chain : List String) : String :=
  -- A single cause has no number.
  let causes := match chain.tail with
    | [] => ""
    | [cause] => "\n\nCaused by:\n    " ++ indented 4 cause
    | causes => "\n\nCaused by:" ++ String.join (causes.mapIdx fun number cause => numberedCause cause number)
  "Error: " ++ chain.headD "" ++ causes ++ "\n"

/-- The lines of the log records. -/
def logText (log : List LogRecord) : String :=
  String.join (log.map fun record => indented 4 record.line ++ "\n")

/-- A string as output. -/
def outputOf (text : String) : List UInt8 := Utf8.encode text.toList

/-- The work before the first act, with an empty jar and a report without limit. -/
def World.start (world : World) : Work := .start world.network world.now world.library.order none

/-- The outcome of a run that sends nothing. -/
def idle (world : World) (exitCode : Nat) (output diagnostics : String) : Outcome :=
  ⟨some exitCode, outputOf output, diagnostics, world.start.wire⟩

/-- The outcome for a usage error: help goes to standard output, all else to standard error. -/
def refuse (world : World) (error : UsageError) : Outcome :=
  match error with
  | .help topic => idle world 0 (help world.env topic) ""
  | error => idle world 2 "" error.message

/-- The outcome of a run, where a failure is reported behind the log. -/
def conclude : Except Unfinished Unit × Work → Outcome
  | (.ok (), work) => ⟨some 0, work.report.written, logText work.log, work.wire⟩
  | (.error (.failed error), work) =>
    ⟨some 1, work.report.written, logText work.log ++ errorText error.chain, work.wire⟩
  | (.error .waiting, work) => ⟨none, work.report.written, logText work.log, work.wire⟩

/-- Loads the configuration and runs a task with it. -/
def perform (world : World) (task : Task) (given : Settings) : Outcome :=
  match Configuration.load world.files given with
  -- Nothing is logged before the configuration is there, since it sets the log level.
  | .error error => idle world 1 "" (errorText error.chain)
  | .ok config =>
    conclude ((task.announced world.library world.files config).run config.logLevel world.start)

/-- Runs the program with the words of a command line. -/
def execute (world : World) (args : List String) : Outcome :=
  match parse world.env args with
  | .error error => refuse world error
  | .ok .version => idle world 0 (programName ++ " version: " ++ version ++ "\n") ""
  | .ok (.run task given) => perform world task given

end AccessProbe.CommandLine
