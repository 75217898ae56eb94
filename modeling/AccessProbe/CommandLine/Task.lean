import AccessProbe.CommandLine.Basic
import AccessProbe.Verification

/-! The work of each subcommand. -/

namespace AccessProbe.CommandLine

/-- The work of a task, with a client of its own. -/
def Task.plan (task : Task) (library : Library) (files : Files) (config : Configuration) : Plan Unit := do
  match task with
  | .session => (← Probe.prepare library files config .session).session
  | .token => (← Probe.prepare library files config .token).token
  | .register => (← Probe.prepare library files config .none).register
  | .list kind => (← Probe.prepare library files config .token).list kind
  -- The verification prepares its client itself, because it makes its requests without a probe.
  | .verifyAuth => Verification.verify library files config

/-- The log record about the configuration, without the password. -/
def configurationRecord (config : Configuration) : LogRecord :=
  ⟨.debug, .program, "Configuration: target " ++ config.target.text ++ ", login " ++ config.login⟩

/-- The work of a task behind the record about its configuration. -/
def Task.announced (task : Task) (library : Library) (files : Files) (config : Configuration) : Plan Unit :=
  .note (configurationRecord config) (task.plan library files config)

end AccessProbe.CommandLine
