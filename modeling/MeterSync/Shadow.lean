import MeterSync.Table
import MeterSync.Batch

/-!
# Device shadows

A shadow keeps the configuration that each cell was last seen to hold, so that a write of what is
already there can be left out. It is filled after every accepted write and every read, and an entry
is never taken away: a reset cell has an entry that says so.
-/

set_option autoImplicit false

namespace MeterSync

class ShadowStore (Shadow : Type) where
  find? : Shadow → CellHandle → Option CellConfig
  put : Shadow → CellHandle → CellConfig → Shadow

namespace ShadowStore

variable {Shadow : Type} [ShadowStore Shadow]

/-- Records configurations of a device, one after the other. -/
def record (shadow : Shadow) (device : DeviceId) (configs : List CellConfig) : Shadow :=
  configs.foldl (fun shadow config => put shadow (config.handle device) config) shadow

/-- Records every configuration of a batch that was taken as a whole. -/
def recordBatch (shadow : Shadow) (batch : WriteBatch) : Shadow :=
  record shadow batch.device batch.configs

/-- Records the configurations that were taken and passes over the others. -/
def recordOutcome (shadow : Shadow) (outcome : BatchOutcome) : Shadow :=
  record shadow outcome.device outcome.accepted

/-- The shadow shows exactly this configuration for a cell. -/
def holds (shadow : Shadow) (handle : CellHandle) (config : CellConfig) : Bool :=
  find? shadow handle == some config

end ShadowStore

abbrev ShadowTable := CellTable CellConfig

instance : ShadowStore ShadowTable where
  find? := CellTable.find?
  put := CellTable.put

/-- A shadow that loses what it is given for some cells. -/
structure LossyShadow where
  table : ShadowTable
  loses : CellHandle → Bool

instance : ShadowStore LossyShadow where
  find? shadow handle := shadow.table.find? handle
  put shadow handle config :=
    if shadow.loses handle then shadow
    else { shadow with table := shadow.table.put handle config }

end MeterSync
