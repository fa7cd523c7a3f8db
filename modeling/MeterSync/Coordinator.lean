import Std.Data.TreeMap
import MeterSync.Client
import MeterSync.Features
import MeterSync.Intent
import MeterSync.LockPool
import MeterSync.Shadow

/-!
# The coordinator

The coordinator brings devices to what is asked for. It knows the pipeline of every device, keeps
the intents and the shadow, and counts what it does. The connection through which it reaches the
devices is part of its state, since every call may change it.
-/

set_option autoImplicit false

namespace MeterSync

structure Stats where
  operations : Nat
  writesSubmitted : Nat
  writesSkipped : Nat
  writeFailures : Nat
  resolutionFailures : Nat
  reconciliations : Nat
  cellsReset : Nat
  resetFailures : Nat
deriving DecidableEq, Repr

def Stats.zero : Stats :=
  ⟨0, 0, 0, 0, 0, 0, 0, 0⟩

abbrev PipelineTable := Std.TreeMap DeviceId Pipeline

structure Coordinator (Shadow Connection : Type) where
  lockStripes : UInt64
  pipelines : PipelineTable
  intents : IntentStore
  shadow : Shadow
  stats : Stats
  connection : Connection

namespace Coordinator

variable {Shadow Connection : Type}

def new (lockStripes : UInt64) (pipelines : PipelineTable) (shadow : Shadow)
    (connection : Connection) : Coordinator Shadow Connection :=
  ⟨lockStripes, pipelines, ∅, shadow, .zero, connection⟩

def pipeline? (coordinator : Coordinator Shadow Connection) (device : DeviceId) :
    Option Pipeline :=
  coordinator.pipelines.get? device

/-- The devices that have a pipeline, by ascending name. -/
def devices (coordinator : Coordinator Shadow Connection) : List DeviceId :=
  coordinator.pipelines.keys

/-- The locks that keep operations on one device apart. -/
def locks (coordinator : Coordinator Shadow Connection) : LockPool :=
  .ofStripes coordinator.lockStripes

/-- The features of every array of a device; none if the device has no pipeline. -/
def features (coordinator : Coordinator Shadow Connection) (device : DeviceId) :
    List Features :=
  match coordinator.pipeline? device with
  | none => []
  | some pipeline => pipeline.features device

def count (coordinator : Coordinator Shadow Connection) (change : Stats → Stats) :
    Coordinator Shadow Connection :=
  { coordinator with stats := change coordinator.stats }

end Coordinator

end MeterSync
