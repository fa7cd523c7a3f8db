import MeterSync.CommandLine
import MeterSync.Daemon
import MeterSync.Form.Configuration
import MeterSync.Form.Report

/-!
# The agent

What a command line comes to, given what its configuration file holds. The agent either ends with
an exit code and some output, or goes on as a daemon.
-/

set_option autoImplicit false

namespace MeterSync

/-- How the agent goes on: it ends, or it keeps reconciling. -/
inductive Outcome where
  | exit (code : Nat) (output : String)
  | serve (daemon : Daemon)

namespace Agent

/-- A snapshot as text, with members by ascending name and a line end behind it. -/
def snapshotText (daemon : Daemon) (reports : List (DeviceId × Report)) : String :=
  (daemon.coordinator.snapshot reports).canonical.print .indented ++ "\n"

/-- Starts a daemon with the operations of its configuration performed. An interval on the command
line goes before the configured one; neither may be zero. -/
def start (arguments : Arguments) (configuration : Configuration) : Except StartError Daemon :=
  let interval := arguments.interval.getD configuration.interval
  if interval = 0 then .error .zeroInterval
  else do
    let daemon ← Daemon.build configuration interval
    return (daemon.apply configuration.operations).2

/-- Runs with the contents of the configuration file, if it could be read. -/
def run (arguments : Arguments) (contents : Option String) : Outcome :=
  match contents.map Configuration.ofYaml with
  | some (.ok configuration) =>
    match start arguments configuration with
    | .error error => .exit error.exitCode ""
    | .ok daemon =>
      if arguments.once then
        let reconciled := daemon.reconcileOnce
        .exit 0 (snapshotText reconciled.2 reconciled.1)
      else .serve daemon
  | _ => .exit 1 ""

/-- Does what a command line asks for. A command line that is refused ends with code 2. -/
def execute (request : Except UsageError Command) (contents : Option String) : Outcome :=
  match request with
  | .error _ => .exit 2 ""
  | .ok .help => .exit 0 CommandLine.helpText
  | .ok .version => .exit 0 CommandLine.versionText
  | .ok (.run arguments) => run arguments contents

def path? (request : Except UsageError Command) : Option String :=
  match request with
  | .ok (.run arguments) => some arguments.config
  | _ => none

end Agent

end MeterSync
