import MeterSync.Client.Submission
import MeterSync.Coordinator
import MeterSync.Resolution

/-!
# Processing operations

An operation settles what its cell is meant to hold, and then brings the device there. The intent
changes before anything is written, and the shadow only after the device took the write. A write
of what the shadow already shows is left out.
-/

set_option autoImplicit false

namespace MeterSync

inductive OperationError where
  | noPipeline (device : DeviceId)
  | unresolved (error : ResolutionError)
  | writeFailed (device : DeviceId) (reason : String)
deriving DecidableEq, Repr

def OperationError.message : OperationError → String
  | .noPipeline device => s!"no pipeline known for device {device.text}"
  | .unresolved error => s!"unable to translate meter: {error.message}"
  | .writeFailed device reason => s!"write to device {device.text} failed: {reason}"

namespace Coordinator

variable {Shadow Connection : Type} [ShadowStore Shadow] [Client Connection]

/-- Settles what the cell of an operation is meant to hold. To add or modify records an intent, if
the meter resolves, and to remove drops it. -/
def settle (coordinator : Coordinator Shadow Connection) (pipeline : Pipeline)
    (operation : Operation) :
    Except ResolutionError CellConfig × Coordinator Shadow Connection :=
  let meter := operation.meter
  match operation.kind with
  | .remove =>
    (.ok (.reset meter.cell),
      { coordinator with intents := coordinator.intents.forget meter.handle })
  | .add | .modify =>
    match pipeline.resolve meter with
    | .error error =>
      (.error error,
        coordinator.count fun stats =>
          { stats with resolutionFailures := stats.resolutionFailures + 1 })
    | .ok config =>
      (.ok config,
        { coordinator with
          intents := coordinator.intents.learn meter.handle ⟨meter, config, meter.handle⟩ })

def send (coordinator : Coordinator Shadow Connection) (pipeline : Pipeline)
    (batch : WriteBatch) : BatchOutcome × Coordinator Shadow Connection :=
  let answered := Client.submit pipeline batch coordinator.connection
  (answered.1, { coordinator with connection := answered.2 })

/-- Takes note of the outcome of a batch that an operation wrote. -/
def conclude (coordinator : Coordinator Shadow Connection) (batch : WriteBatch)
    (outcome : BatchOutcome) : Except OperationError Unit × Coordinator Shadow Connection :=
  match outcome.refusals with
  | reason :: _ =>
    (.error (.writeFailed batch.device reason),
      coordinator.count fun stats => { stats with writeFailures := stats.writeFailures + 1 })
  | [] =>
    (.ok (), { coordinator with shadow := ShadowStore.recordBatch coordinator.shadow batch })

/-- Brings a cell of a device to a configuration, unless the shadow shows it there. -/
def deliver (coordinator : Coordinator Shadow Connection) (pipeline : Pipeline)
    (device : DeviceId) (config : CellConfig) :
    Except OperationError Unit × Coordinator Shadow Connection :=
  if ShadowStore.holds coordinator.shadow (config.handle device) config then
    (.ok (),
      coordinator.count fun stats => { stats with writesSkipped := stats.writesSkipped + 1 })
  else
    let counted := coordinator.count fun stats =>
      { stats with writesSubmitted := stats.writesSubmitted + 1 }
    let batch := (WriteBatch.empty device).push config
    let sent := counted.send pipeline batch
    sent.2.conclude batch sent.1

/-- Performs an operation. Without a pipeline for the device nothing happens at all. -/
def process (coordinator : Coordinator Shadow Connection) (operation : Operation) :
    Except OperationError Unit × Coordinator Shadow Connection :=
  let device := operation.meter.device
  match coordinator.pipeline? device with
  | none => (.error (.noPipeline device), coordinator)
  | some pipeline =>
    let counted := coordinator.count fun stats => { stats with operations := stats.operations + 1 }
    match counted.settle pipeline operation with
    | (.error error, settled) => (.error (.unresolved error), settled)
    | (.ok config, settled) => settled.deliver pipeline device config

/-- Performs an operation and says whether the device now holds what was asked for. -/
def perform (coordinator : Coordinator Shadow Connection) (operation : Operation) :
    Bool × Coordinator Shadow Connection :=
  let processed := coordinator.process operation
  (processed.1.isOk, processed.2)

/-- Performs operations in order and says of each whether it succeeded. -/
def performAll (coordinator : Coordinator Shadow Connection) :
    List Operation → List Bool × Coordinator Shadow Connection
  | [] => ([], coordinator)
  | operation :: operations =>
    let first := coordinator.perform operation
    let later := first.2.performAll operations
    (first.1 :: later.1, later.2)

end Coordinator

end MeterSync
