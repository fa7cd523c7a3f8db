import MeterSync.Client

/-!
# Reading devices

A bulk read yields the configurations that decode and the cells whose configuration does not.
Entries that address no cell of the pipeline are passed over.
-/

set_option autoImplicit false

namespace MeterSync

structure Readout where
  configs : List CellConfig
  undecodable : List CellId
deriving DecidableEq, Repr

def Readout.size (readout : Readout) : Nat :=
  readout.configs.length + readout.undecodable.length

def Readout.isEmpty (readout : Readout) : Bool :=
  readout.configs.isEmpty && readout.undecodable.isEmpty

def Codec.decode? (pipeline : Pipeline) (entry : Wire.Entry) : Option CellConfig :=
  (Codec.decode pipeline entry).toOption

/-- The cell of an entry that addresses one but does not decode. -/
def Codec.undecodable? (pipeline : Pipeline) (entry : Wire.Entry) : Option CellId :=
  match Codec.decode pipeline entry with
  | .ok _ => none
  | .error _ => (Codec.decodeKey pipeline entry).toOption

/-- The cells seen in a list of entries, in its order. -/
def Readout.ofEntries (pipeline : Pipeline) (entries : List Wire.Entry) : Readout where
  configs := entries.filterMap (Codec.decode? pipeline)
  undecodable := entries.filterMap (Codec.undecodable? pipeline)

/-- The wire ids of arrays by name, or the first name that the pipeline does not have. -/
def Codec.wireIds (pipeline : Pipeline) : List MeterId → Except CodecError (List UInt32)
  | [] => .ok []
  | id :: ids =>
    match pipeline.array? id with
    | none => .error (.unknownMeter id)
    | some array => do
      let wireIds ← Codec.wireIds pipeline ids
      return array.wireId :: wireIds

variable {Connection : Type} [Client Connection]

/-- Reads every cell of some arrays of a device. An unknown array is found before any call. -/
def Client.readCells (pipeline : Pipeline) (device : DeviceId) (ids : List MeterId)
    (connection : Connection) : Except ClientError Readout × Connection :=
  match Codec.wireIds pipeline ids with
  | .error error => (.error (.codec error), connection)
  | .ok wireIds =>
    match Client.read connection device wireIds with
    | (.error error, connection) => (.error error, connection)
    | (.ok entries, connection) => (.ok (.ofEntries pipeline entries), connection)

end MeterSync
