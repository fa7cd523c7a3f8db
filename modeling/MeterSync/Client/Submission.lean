import MeterSync.Batch
import MeterSync.Client

/-!
# Submitting batches

A batch is encoded as a whole and written in one call, and the statuses of the answer are laid
beside the configurations. If one configuration does not encode, nothing is sent.
-/

set_option autoImplicit false

namespace MeterSync

/-- The refusal of a configuration for which the answer has no status. -/
def noStatus : String := "no status returned for entity"

/-- The outcomes of configurations under a list of statuses. Surplus statuses are passed over. -/
def alignOutcomes : List CellConfig → List WriteStatus → List WriteOutcome
  | [], _ => []
  | config :: configs, [] => ⟨config, some noStatus⟩ :: alignOutcomes configs []
  | config :: configs, status :: statuses => ⟨config, status⟩ :: alignOutcomes configs statuses

/-- The outcome of a batch under a list of statuses. -/
def WriteBatch.answered (batch : WriteBatch) (statuses : List WriteStatus) : BatchOutcome :=
  ⟨batch.device, alignOutcomes batch.configs statuses⟩

/-- The entries of a list of configurations, or the first error among them. -/
def Codec.encodeAll (pipeline : Pipeline) :
    List CellConfig → Except CodecError (List Wire.Entry)
  | [] => .ok []
  | config :: configs => do
    let entry ← Codec.encode pipeline config
    let entries ← Codec.encodeAll pipeline configs
    return entry :: entries

variable {Connection : Type} [Client Connection]

/-- Encodes and writes a batch. A failed call is the refusal of every configuration. -/
def Client.submit (pipeline : Pipeline) (batch : WriteBatch) (connection : Connection) :
    BatchOutcome × Connection :=
  match Codec.encodeAll pipeline batch.configs with
  | .error error => (batch.allFailed error.message, connection)
  | .ok entries =>
    match Client.write connection batch.device entries with
    | (.error error, connection) => (batch.allFailed error.message, connection)
    | (.ok statuses, connection) => (batch.answered statuses, connection)

end MeterSync
