import MeterSync.Client.Readout
import MeterSync.Coordinator.Processing

/-!
# Reconciling devices

A reconciliation reads every cell of a device, reports the meters that are as intended, and resets
every cell that holds something else. A cell that is already default has nothing to reset, and one
whose configuration does not decode is always reset.
-/

set_option autoImplicit false

namespace MeterSync

structure Report where
  meters : List Meter
  cellsRead : Nat
  reset : Nat
  resetFailed : Nat
  undecodable : Nat
deriving DecidableEq, Repr

/-- The report of a reconciliation that could not be made. -/
def Report.empty : Report :=
  ⟨[], 0, 0, 0, 0⟩

inductive Verdict where
  | consistent (meter : Meter)
  | default
  | inconsistent
deriving DecidableEq, Repr

/-- The meter that an observed configuration shows. A device echoes the cell and its bands, and
nothing else is known. -/
def CellConfig.observedMeter (config : CellConfig) (device : DeviceId) : Meter where
  device
  cell := config.cell
  bands := config.bands.map fun band => ⟨.uncolored, band.rate, some band.burst⟩
  unit := none
  state := .added

namespace Coordinator

variable {Shadow Connection : Type} [ShadowStore Shadow] [Client Connection]

/-- Compares an observed configuration with the intent for its cell. A meter that the shadow has
lost sight of does not count as consistent. -/
def judge (coordinator : Coordinator Shadow Connection) (device : DeviceId)
    (config : CellConfig) : Verdict :=
  match coordinator.intents.lookup (config.handle device) with
  | none => if config.isDefault then .default else .inconsistent
  | some intent =>
    if intent.config ≠ config then .inconsistent
    else if (ShadowStore.find? coordinator.shadow (config.handle device)).isNone then
      .inconsistent
    else .consistent (config.observedMeter device)

/-- The meters of observed configurations that are as intended. -/
def consistentMeters (coordinator : Coordinator Shadow Connection) (device : DeviceId)
    (configs : List CellConfig) : List Meter :=
  configs.filterMap fun config =>
    match coordinator.judge device config with
    | .consistent meter => some meter
    | .default => none
    | .inconsistent => none

/-- The reset of an observed configuration that is not as intended, unless the shadow shows the
cell reset already. -/
def correction? (coordinator : Coordinator Shadow Connection) (device : DeviceId)
    (config : CellConfig) : Option CellConfig :=
  match coordinator.judge device config with
  | .consistent _ => none
  | .default => none
  | .inconsistent =>
    if ShadowStore.holds coordinator.shadow (config.handle device) (.reset config.cell) then none
    else some (.reset config.cell)

/-- The resets that a readout calls for: first the cells that are not as intended, then those that
do not decode. -/
def corrections (coordinator : Coordinator Shadow Connection) (device : DeviceId)
    (readout : Readout) : WriteBatch :=
  ⟨device, readout.configs.filterMap (coordinator.correction? device) ++
    readout.undecodable.map .reset⟩

/-- Reads all arrays of a pipeline over the connection. -/
def observe (coordinator : Coordinator Shadow Connection) (pipeline : Pipeline)
    (device : DeviceId) : Except ClientError Readout × Coordinator Shadow Connection :=
  let answered := Client.readCells pipeline device (pipeline.arrays.map (·.id))
    coordinator.connection
  (answered.1, { coordinator with connection := answered.2 })

/-- Writes a batch of resets, if there are any, and records those that were taken. -/
def correct (coordinator : Coordinator Shadow Connection) (pipeline : Pipeline)
    (batch : WriteBatch) : BatchOutcome × Coordinator Shadow Connection :=
  if batch.configs.isEmpty then (⟨batch.device, []⟩, coordinator)
  else
    let sent := coordinator.send pipeline batch
    let outcome := sent.1
    (outcome,
      { sent.2 with
        shadow := ShadowStore.recordOutcome sent.2.shadow outcome
        stats :=
          { sent.2.stats with
            cellsReset := sent.2.stats.cellsReset + outcome.accepted.length
            resetFailures := sent.2.stats.resetFailures + outcome.failed.length } })

/-- Reconciles a device. Nothing happens to a device without pipeline, and a failed read leaves
everything but its own count as it was. -/
def reconcile (coordinator : Coordinator Shadow Connection) (device : DeviceId) :
    Report × Coordinator Shadow Connection :=
  match coordinator.pipeline? device with
  | none => (.empty, coordinator)
  | some pipeline =>
    let counted := coordinator.count fun stats =>
      { stats with reconciliations := stats.reconciliations + 1 }
    match counted.observe pipeline device with
    | (.error _, observed) => (.empty, observed)
    | (.ok readout, observed) =>
      let synced :=
        { observed with shadow := ShadowStore.record observed.shadow device readout.configs }
      let corrected := synced.correct pipeline (synced.corrections device readout)
      ({ meters := synced.consistentMeters device readout.configs
         cellsRead := readout.size
         reset := corrected.1.accepted.length
         resetFailed := corrected.1.failed.length
         undecodable := readout.undecodable.length },
        corrected.2)

/-- The meters of a device that are as intended, after a reconciliation. -/
def meters (coordinator : Coordinator Shadow Connection) (device : DeviceId) :
    List Meter × Coordinator Shadow Connection :=
  let reconciled := coordinator.reconcile device
  (reconciled.1.meters, reconciled.2)

def reconcileAll (coordinator : Coordinator Shadow Connection) :
    List DeviceId → List (DeviceId × Report) × Coordinator Shadow Connection
  | [] => ([], coordinator)
  | device :: devices =>
    let first := coordinator.reconcile device
    let later := first.2.reconcileAll devices
    ((device, first.1) :: later.1, later.2)

end Coordinator

end MeterSync
