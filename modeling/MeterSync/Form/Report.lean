import MeterSync.Coordinator.Description
import MeterSync.Coordinator.Reconciliation
import MeterSync.Form.Pipeline

/-!
# Forms of reports

What a reconciliation found and did, what a coordinator has done so far, and both together for all
devices.
-/

set_option autoImplicit false

namespace MeterSync

def Report.toJson (report : Report) : Json :=
  .record [("meters", .array (report.meters.map (·.toJson))),
    ("cells_read", .natural report.cellsRead), ("reset", .natural report.reset),
    ("reset_failed", .natural report.resetFailed), ("undecodable", .natural report.undecodable)]

def Stats.toJson (stats : Stats) : Json :=
  .record (stats.named.map fun count => (count.1, .natural count.2))

/-- The report of a device beside the features of the device. -/
def Report.withFeatures (report : Report) (device : DeviceId) (features : List Features) : Json :=
  .record [("device_id", device.toJson), ("cells_read", .natural report.cellsRead),
    ("undecodable", .natural report.undecodable), ("reset", .natural report.reset),
    ("reset_failed", .natural report.resetFailed),
    ("meters", .array (report.meters.map (·.toJson))),
    ("features", .array (features.map (·.toJson)))]

/-- The reports of devices beside the features and the counts of a coordinator. -/
def Coordinator.snapshot {Shadow Connection : Type} (coordinator : Coordinator Shadow Connection)
    (reports : List (DeviceId × Report)) : Json :=
  .record [
    ("devices", .array (reports.map fun entry =>
      entry.2.withFeatures entry.1 (coordinator.features entry.1))),
    ("stats", coordinator.stats.toJson)]

end MeterSync
