import MeterSync.Configuration
import MeterSync.Coordinator.Processing
import MeterSync.Coordinator.Reconciliation
import MeterSync.Simulator

/-!
# The daemon

The daemon drives a coordinator over simulated devices: it applies the operations it is given, and
reconciles all devices time and again until it is stopped.
-/

set_option autoImplicit false

namespace MeterSync

/-- A daemon, its interval in milliseconds, and whether it has been stopped. -/
structure Daemon where
  interval : UInt64
  coordinator : Coordinator ShadowTable Simulator
  stopped : Bool

def Configuration.simulator (configuration : Configuration) : Simulator :=
  configuration.devices.foldl
    (fun simulator configured => simulator.addDevice configured.device configured.pipeline) .empty

def Configuration.pipelines (configuration : Configuration) : PipelineTable :=
  configuration.devices.foldl
    (fun pipelines configured => pipelines.insert configured.device configured.pipeline) ∅

/-- Why an agent does not start. -/
inductive StartError where
  | zeroInterval
  | tooManyLocks
deriving DecidableEq, Repr

def StartError.exitCode : StartError → Nat
  | .zeroInterval => 1
  | .tooManyLocks => 101

namespace Daemon

/-- The daemon of a configuration once its locks are there, with an interval that may differ from
the configured one. -/
def ofConfiguration (configuration : Configuration) (interval : UInt64) : Daemon where
  interval
  coordinator := .new configuration.lockStripes configuration.pipelines ∅ configuration.simulator
  stopped := false

/-- Builds the daemon of a configuration. Its locks are set up at once, and a configuration may ask
for more of them than can be addressed. -/
def build (configuration : Configuration) (interval : UInt64) : Except StartError Daemon :=
  if LockPool.maxStripes < configuration.lockStripes then .error .tooManyLocks
  else .ok (ofConfiguration configuration interval)

/-- Performs operations in order and counts those that succeeded. -/
def apply (daemon : Daemon) (operations : List Operation) : Nat × Daemon :=
  let performed := daemon.coordinator.performAll operations
  (performed.1.count true, { daemon with coordinator := performed.2 })

/-- Reconciles every device and reports on each, by ascending device. -/
def reconcileOnce (daemon : Daemon) : List (DeviceId × Report) × Daemon :=
  let reconciled := daemon.coordinator.reconcileAll daemon.coordinator.devices
  (reconciled.1, { daemon with coordinator := reconciled.2 })

/-- Stops the daemon after the pass it is in. -/
def stop (daemon : Daemon) : Daemon :=
  { daemon with stopped := true }

/-- Passes until it is stopped, which happens while it waits for the second pass. A daemon that is
stopped makes no pass. -/
def runOnePass (daemon : Daemon) : Daemon :=
  if daemon.stopped then daemon else daemon.reconcileOnce.2.stop

end Daemon

end MeterSync
