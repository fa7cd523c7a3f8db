import MeterSync.LockPool
import MeterSync.Pipeline

/-!
# Configurations

Which devices there are, the pipeline of each, and the operations to start with. A configuration is
accepted if no setting is zero and no device is named twice.
-/

set_option autoImplicit false

namespace MeterSync

/-- An operation on a device that is known from its surroundings. -/
structure ConfiguredOperation where
  kind : OperationKind
  cell : CellId
  bands : List MeterBand
  unit : Option RateUnit
deriving DecidableEq, Repr

/-- A device with its pipeline and its operations, in order. -/
structure ConfiguredDevice where
  device : DeviceId
  pipeline : Pipeline
  operations : List ConfiguredOperation
deriving DecidableEq, Repr

/-- The settings of the agent. The interval is in milliseconds. -/
structure Configuration where
  lockStripes : UInt64
  interval : UInt64
  devices : List ConfiguredDevice
deriving DecidableEq, Repr

inductive ConfigurationFault where
  | noLockStripes
  | noInterval
  | repeatedDevice (device : DeviceId)
deriving DecidableEq, Repr

def ConfigurationFault.message : ConfigurationFault → String
  | .noLockStripes => "invalid configuration: lock_stripes must be > 0"
  | .noInterval => "invalid configuration: reconcile_interval_ms must be > 0"
  | .repeatedDevice device => s!"invalid configuration: duplicate device {device.text}"

namespace Configuration

/-- The interval of a configuration that does not name one. -/
def defaultInterval : UInt64 := 5000

/-- The first device that stands in a list for a second time, or among those before it. -/
def repeatedDevice? (earlier : List DeviceId) : List DeviceId → Option DeviceId
  | [] => none
  | device :: devices =>
    if device ∈ earlier then some device else repeatedDevice? (device :: earlier) devices

def fault? (configuration : Configuration) : Option ConfigurationFault :=
  if configuration.lockStripes = 0 then some .noLockStripes
  else if configuration.interval = 0 then some .noInterval
  else
    (repeatedDevice? [] (configuration.devices.map (·.device))).map .repeatedDevice

end Configuration

/-- The operation on a device. Its meter waits to be added. -/
def ConfiguredOperation.on (operation : ConfiguredOperation) (device : DeviceId) : Operation :=
  ⟨operation.kind, ⟨device, operation.cell, operation.bands, operation.unit, .pendingAdd⟩⟩

def ConfiguredDevice.all (configured : ConfiguredDevice) : List Operation :=
  configured.operations.map (·.on configured.device)

def Configuration.operations (configuration : Configuration) : List Operation :=
  configuration.devices.flatMap (·.all)

/-- A device is found as repeated exactly when the list repeats one or has one from before. -/
theorem Configuration.repeatedDevice?_eq_none_iff {earlier devices : List DeviceId} :
    repeatedDevice? earlier devices = none ↔
      devices.Nodup ∧ ∀ device ∈ devices, device ∉ earlier := by
  induction devices generalizing earlier with
  | nil => simp [repeatedDevice?]
  | cons device devices ih =>
      rw [repeatedDevice?]
      split
      · simp_all
      · rw [ih]
        simp only [List.nodup_cons, List.mem_cons, not_or]
        grind

/-- A configuration breaks no rule exactly when its settings are positive and its devices are
distinct. -/
theorem Configuration.fault?_eq_none_iff {configuration : Configuration} :
    configuration.fault? = none ↔
      configuration.lockStripes ≠ 0 ∧ configuration.interval ≠ 0 ∧
        (configuration.devices.map (·.device)).Nodup := by
  unfold fault?
  split
  · simp_all
  · split
    · simp_all
    · simp_all [repeatedDevice?_eq_none_iff]

end MeterSync
