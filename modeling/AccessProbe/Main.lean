import AccessProbe.CommandLine.Program
import Std.Time.DateTime

/-! The program on the command line. It has no network and reads the files it needs. -/

namespace AccessProbe.CommandLine

/-- The environment variables of the options. -/
def readEnvironment : IO (List (String × String)) := do
  let found ← (Flag.all.filterMap Flag.environmentName?).mapM fun name => do
    return (← IO.getEnv name).map fun value => (name, value)
  return found.filterMap id

/-- Reads an entry of the file system, if there is one. -/
def readEntry (path : String) : IO (Option (String × FileEntry)) := do
  try
    return some (path, .content (← IO.FS.readBinFile path).toList)
  catch
    | .noFileOrDirectory .. => return none
    | _ => return some (path, .directory)

/-- Adds the files that a command line is known to need. -/
def World.withFiles (world : World) (args : List String) : IO World := do
  let entries ← (world.filesNeeded args).mapM readEntry
  return { world with files := entries.filterMap id }

end AccessProbe.CommandLine

open AccessProbe AccessProbe.CommandLine

/-- Runs the program with its arguments and ends with its exit code. -/
def main (args : List String) : IO UInt32 := do
  let now := (← Std.Time.Timestamp.now).toSecondsSinceUnixEpoch.val
  let world : World := ⟨← readEnvironment, [], .unreachable, now, .plain⟩
  -- The first pass finds the configuration file, the second one the header file that it names.
  let world ← (← world.withFiles args).withFiles args
  let outcome := execute world args
  let output ← IO.getStdout
  output.write outcome.output.toByteArray
  output.flush
  IO.eprint outcome.diagnostics
  -- Without a network every request fails at once, so that there always is an exit code.
  return (outcome.exitCode.getD 1).toUInt32
