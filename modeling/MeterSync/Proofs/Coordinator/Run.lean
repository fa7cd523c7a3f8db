import MeterSync.Proofs.Coordinator.Processing
import MeterSync.Proofs.Coordinator.Reconciliation

/-!
# Runs

A coordinator serves requests one after the other. Simulated devices can also be changed behind its
back, and their calls can be made to fail. A property that every step preserves holds after every
run.
-/

set_option autoImplicit false

namespace MeterSync

instance exceptDecidableEq {Error Value : Type} [DecidableEq Error] [DecidableEq Value] :
    DecidableEq (Except Error Value)
  | .error first, .error second =>
    decidable_of_iff (first = second) ⟨congrArg Except.error, Except.error.inj⟩
  | .ok first, .ok second => decidable_of_iff (first = second) ⟨congrArg Except.ok, Except.ok.inj⟩
  | .error _, .ok _ => isFalse nofun
  | .ok _, .error _ => isFalse nofun

/-- What a coordinator can be asked for. -/
inductive Request where
  | process (operation : Operation)
  | reconcile (device : DeviceId)
deriving DecidableEq, Repr

/-- What can happen while devices are simulated. -/
inductive Event where
  | request (request : Request)
  | inject (device : DeviceId) (wireId : UInt32) (index : Int64) (config : Option Wire.Config)
  | failWrites (fail : Bool)
  | failReads (fail : Bool)
deriving DecidableEq, Repr

/-- The event changes a cell without a call being made. -/
def Event.injects : Event → Bool
  | .inject .. => true
  | .request _ | .failWrites _ | .failReads _ => false

namespace Coordinator

section Requests

variable {Shadow Connection : Type} [ShadowStore Shadow] [Client Connection]

/-- The coordinator after a request. -/
def serve (coordinator : Coordinator Shadow Connection) :
    Request → Coordinator Shadow Connection
  | .process operation => (coordinator.process operation).2
  | .reconcile device => (coordinator.reconcile device).2

/-- The coordinator after requests, served in order. -/
def serveAll (coordinator : Coordinator Shadow Connection) (requests : List Request) :
    Coordinator Shadow Connection :=
  requests.foldl serve coordinator

theorem serveAll_induction {motive : Coordinator Shadow Connection → Prop}
    {coordinator : Coordinator Shadow Connection} (start : motive coordinator)
    (step : ∀ coordinator request, motive coordinator → motive (coordinator.serve request))
    (requests : List Request) : motive (coordinator.serveAll requests) :=
  List.foldlRecOn requests serve start fun coordinator held request _ =>
    step coordinator request held

/-- No request changes a pipeline. -/
theorem serve_pipelines (coordinator : Coordinator Shadow Connection) (request : Request) :
    (coordinator.serve request).pipelines = coordinator.pipelines := by
  cases request with
  | process operation => exact (coordinator.processed operation).pipelines
  | reconcile device => exact (coordinator.reconciled device).frame.1

theorem serveAll_pipelines (coordinator : Coordinator Shadow Connection)
    (requests : List Request) :
    (coordinator.serveAll requests).pipelines = coordinator.pipelines :=
  serveAll_induction (motive := fun reached => reached.pipelines = coordinator.pipelines) rfl
    (fun reached request same => (reached.serve_pipelines request).trans same) requests

end Requests

section Events

variable {Shadow : Type} [ShadowStore Shadow]

/-- The coordinator of simulated devices after an event. -/
def happen (coordinator : Coordinator Shadow Simulator) :
    Event → Coordinator Shadow Simulator
  | .request request => coordinator.serve request
  | .inject device wireId index config =>
    { coordinator with connection := coordinator.connection.inject device wireId index config }
  | .failWrites fail =>
    { coordinator with connection := { coordinator.connection with failWrites := fail } }
  | .failReads fail =>
    { coordinator with connection := { coordinator.connection with failReads := fail } }

/-- The coordinator of simulated devices after events, in order. -/
def run (coordinator : Coordinator Shadow Simulator) (events : List Event) :
    Coordinator Shadow Simulator :=
  events.foldl happen coordinator

theorem run_induction {motive : Coordinator Shadow Simulator → Prop}
    {coordinator : Coordinator Shadow Simulator} {events : List Event}
    (start : motive coordinator)
    (step : ∀ coordinator, ∀ event ∈ events, motive coordinator →
      motive (coordinator.happen event)) : motive (coordinator.run events) :=
  List.foldlRecOn events happen start fun coordinator held event member =>
    step coordinator event member held

theorem happen_pipelines (coordinator : Coordinator Shadow Simulator) (event : Event) :
    (coordinator.happen event).pipelines = coordinator.pipelines := by
  cases event with
  | request request => exact serve_pipelines coordinator request
  | inject device wireId index config => rfl
  | failWrites fail => rfl
  | failReads fail => rfl

theorem run_pipelines (coordinator : Coordinator Shadow Simulator) (events : List Event) :
    (coordinator.run events).pipelines = coordinator.pipelines :=
  run_induction (motive := fun reached => reached.pipelines = coordinator.pipelines) rfl
    fun reached event _ same => (reached.happen_pipelines event).trans same

end Events

end Coordinator

/-! ## A device with one cell -/

namespace Sample

def device : DeviceId := ⟨"d", by decide⟩

def meter : MeterId := ⟨"m", by decide⟩

def pipeline : Pipeline := ⟨[⟨meter, 5, 1, .bytes⟩], by decide, by decide, by decide⟩

def pipelines : PipelineTable := Std.TreeMap.insert ∅ device pipeline

def handle : CellHandle := ⟨device, meter, 0⟩

/-- Asks for 100 with a burst of 10 and 1000 with a burst of 50. -/
def addition : Operation where
  kind := .add
  meter :=
    { device
      cell := handle.cell
      bands := [⟨.uncolored, 100, some 10⟩, ⟨.uncolored, 1000, some 50⟩]
      unit := none
      state := .pendingAdd }

/-- The numbers of the addition on the wire. -/
def numbers : Wire.Config := ⟨100, 10, 1000, 50⟩

/-- The device with its pipeline, a shadow that loses nothing, and nothing done yet. -/
def start : Coordinator ShadowTable Simulator :=
  .new 1 pipelines ∅ (.ofDevices [(device, pipeline)])

end Sample

end MeterSync
