import MeterSync.CellConfig

/-!
# Write batches

A batch holds the configurations to be written to one device, and its outcome says of each, in the
same order, whether the device took it. Cells always exist, so a reset is written like any other
configuration.
-/

set_option autoImplicit false

namespace MeterSync

/-- Configurations to be written to one device, in order. -/
structure WriteBatch where
  device : DeviceId
  configs : List CellConfig
deriving DecidableEq, Repr

/-- What became of one configuration. It was taken if there is no refusal. -/
structure WriteOutcome where
  config : CellConfig
  refusal : Option String
deriving DecidableEq, Repr

structure BatchOutcome where
  device : DeviceId
  outcomes : List WriteOutcome
deriving DecidableEq, Repr

def WriteBatch.empty (device : DeviceId) : WriteBatch :=
  ⟨device, []⟩

/-- The batch with one more configuration at its end. -/
def WriteBatch.push (batch : WriteBatch) (config : CellConfig) : WriteBatch :=
  { batch with configs := batch.configs ++ [config] }

def WriteBatch.allFailed (batch : WriteBatch) (reason : String) : BatchOutcome :=
  ⟨batch.device, batch.configs.map fun config => ⟨config, some reason⟩⟩

def WriteOutcome.accepted (outcome : WriteOutcome) : Bool :=
  outcome.refusal.isNone

def BatchOutcome.succeeded (outcome : BatchOutcome) : Bool :=
  outcome.outcomes.all (·.accepted)

def BatchOutcome.accepted (outcome : BatchOutcome) : List CellConfig :=
  (outcome.outcomes.filter (·.accepted)).map (·.config)

def BatchOutcome.failed (outcome : BatchOutcome) : List WriteOutcome :=
  outcome.outcomes.filter fun each => !each.accepted

def BatchOutcome.refusals (outcome : BatchOutcome) : List String :=
  outcome.outcomes.filterMap (·.refusal)

end MeterSync
