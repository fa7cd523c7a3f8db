import MeterSync.Coordinator

/-!
# Describing a coordinator

The one-line text under which a coordinator appears in diagnostics: its configuration, the number
of its locks and its counts.
-/

set_option autoImplicit false

namespace MeterSync

def Stats.named (stats : Stats) : List (String × Nat) :=
  [("operations", stats.operations), ("writes_submitted", stats.writesSubmitted),
    ("writes_skipped", stats.writesSkipped), ("write_failures", stats.writeFailures),
    ("translation_failures", stats.resolutionFailures),
    ("reconciliations", stats.reconciliations), ("cells_reset", stats.cellsReset),
    ("reset_failures", stats.resetFailures)]

/-- A record as its name and its fields in braces. -/
def describeRecord (name : String) (fields : List (String × String)) : String :=
  let members := fields.map fun field => field.1 ++ ": " ++ field.2
  name ++ " \x7b " ++ ", ".intercalate members ++ " \x7d"

/-- The text of a coordinator. The locks are counted as they are, not as they were asked for. -/
def Coordinator.describe {Shadow Connection : Type}
    (coordinator : Coordinator Shadow Connection) : String :=
  let config := describeRecord "MeterOrchConfig"
    [("lock_stripes", toString coordinator.lockStripes.toNat)]
  let stats := describeRecord "MeterOrchStats"
    (coordinator.stats.named.map fun count => (count.1, toString count.2))
  describeRecord "MeterOrch"
    [("config", config), ("lock_stripes", toString coordinator.locks.count), ("stats", stats)]

end MeterSync
