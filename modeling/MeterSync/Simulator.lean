import Std.Data.TreeMap
import MeterSync.Client

/-!
# Simulated devices

Devices held in memory. Every entry that is written or read goes through its bytes, so an absent
configuration stays absent as it would on a real connection. Calls and entries are counted, and
writes or reads can be made to fail.
-/

set_option autoImplicit false

namespace MeterSync

/-- One array of a simulated device: its size and the cells that hold a configuration. -/
structure SimulatedArray where
  size : UInt64
  cells : Std.TreeMap Int64 Wire.Config

/-- The arrays of a simulated device, by wire id. -/
abbrev SimulatedDevice := Std.TreeMap UInt32 SimulatedArray

/-- All simulated devices, with counts of the calls made to them. -/
structure Simulator where
  devices : Std.TreeMap DeviceId SimulatedDevice
  writeCalls : Nat
  entriesWritten : Nat
  readCalls : Nat
  failWrites : Bool
  failReads : Bool

def Wire.Entry.overWire (entry : Wire.Entry) : Option Wire.Entry :=
  Wire.Entry.decode entry.encode

/-- The status of an entry whose bytes could not be read. -/
def garbledStatus : WriteStatus := some "request rejected by device: garbled entry"

namespace SimulatedDevice

/-- The device with the arrays of a pipeline, every cell in its default state. -/
def ofPipeline (pipeline : Pipeline) : SimulatedDevice :=
  pipeline.arrays.foldl (fun device array => device.insert array.wireId ⟨array.size, ∅⟩) ∅

/-- The configuration of a cell; none in the default state. -/
def cell? (device : SimulatedDevice) (wireId : UInt32) (index : Int64) : Option Wire.Config :=
  (device.get? wireId).bind fun array => array.cells.get? index

/-- The device with one cell changed. Nothing happens where the array is unknown; the index is not
held against the size. -/
def setCell (device : SimulatedDevice) (wireId : UInt32) (index : Int64)
    (config : Option Wire.Config) : SimulatedDevice :=
  match device.get? wireId with
  | none => device
  | some array =>
    let cells :=
      match config with
      | none => array.cells.erase index
      | some config => array.cells.insert index config
    device.insert wireId { array with cells }

/-- The cell that an entry addresses, or why the device refuses it. -/
def target (device : SimulatedDevice) (entry : Wire.Entry) : Except String (UInt32 × Int64) :=
  match device.get? entry.meterId with
  | none => .error s!"unknown meter id {entry.meterId.toNat}"
  | some array =>
    match entry.index with
    | none => .error s!"missing index for meter id {entry.meterId.toNat}"
    | some index =>
      if index.toInt < 0 ∨ (array.size.toNat : Int) ≤ index.toInt then
        .error s!"index {index.toInt} out of range"
      else .ok (entry.meterId, index)

/-- The status of one entry, and the device after it. -/
def writeEntry (device : SimulatedDevice) (entry : Wire.Entry) : WriteStatus × SimulatedDevice :=
  match entry.overWire with
  | none => (garbledStatus, device)
  | some entry =>
    match device.target entry with
    | .error reason => (some reason, device)
    | .ok (wireId, index) => (none, device.setCell wireId index entry.config)

/-- The statuses of entries written one after the other, and the device after them. -/
def writeEntries (device : SimulatedDevice) : List Wire.Entry →
    List WriteStatus × SimulatedDevice
  | [] => ([], device)
  | entry :: entries =>
    let first := device.writeEntry entry
    let later := first.2.writeEntries entries
    (first.1 :: later.1, later.2)

/-- The number of cells that a read of an array goes through: its size as a signed number, and
none if that is negative. -/
def cellCount (array : SimulatedArray) : Nat :=
  array.size.toInt64.toInt.toNat

def readArray (wireId : UInt32) (array : SimulatedArray) : Option (List Wire.Entry) :=
  (List.range (cellCount array)).mapM fun index =>
    let index := Int64.ofNat index
    Wire.Entry.overWire ⟨wireId, some index, array.cells.get? index⟩

/-- The entries of arrays, one array after the other. -/
def readArrays (device : SimulatedDevice) : List UInt32 → Except ClientError (List Wire.Entry)
  | [] => .ok []
  | wireId :: wireIds =>
    match device.get? wireId with
    | none => .error (.rejected s!"unknown meter id {wireId.toNat}")
    | some array =>
      match readArray wireId array with
      | none => .error (.rejected "garbled entry")
      | some entries => do
        let later ← device.readArrays wireIds
        return entries ++ later

end SimulatedDevice

namespace Simulator

def empty : Simulator :=
  ⟨∅, 0, 0, 0, false, false⟩

/-- The simulator with a device added. A device that was there is replaced, cells included. -/
def addDevice (simulator : Simulator) (device : DeviceId) (pipeline : Pipeline) : Simulator :=
  { simulator with devices := simulator.devices.insert device (.ofPipeline pipeline) }

def cell? (simulator : Simulator) (device : DeviceId) (wireId : UInt32) (index : Int64) :
    Option Wire.Config :=
  (simulator.devices.get? device).bind fun arrays => arrays.cell? wireId index

/-- Changes a cell without a call being made. Unknown devices and arrays stay as they are. -/
def inject (simulator : Simulator) (device : DeviceId) (wireId : UInt32) (index : Int64)
    (config : Option Wire.Config) : Simulator :=
  match simulator.devices.get? device with
  | none => simulator
  | some arrays =>
    { simulator with
      devices := simulator.devices.insert device (arrays.setCell wireId index config) }

/-- Writes entries to a device, unless writes fail or the device is unknown. -/
def write (simulator : Simulator) (device : DeviceId) (entries : List Wire.Entry) :
    Except ClientError (List WriteStatus) × Simulator :=
  let simulator := { simulator with writeCalls := simulator.writeCalls + 1 }
  if simulator.failWrites then (.error (.unreachable device), simulator)
  else
    match simulator.devices.get? device with
    | none => (.error (.unreachable device), simulator)
    | some arrays =>
      let written := arrays.writeEntries entries
      (.ok written.1,
        { simulator with
          devices := simulator.devices.insert device written.2
          entriesWritten := simulator.entriesWritten + entries.length })

/-- Reads arrays of a device, unless reads fail or the device is unknown. -/
def read (simulator : Simulator) (device : DeviceId) (wireIds : List UInt32) :
    Except ClientError (List Wire.Entry) × Simulator :=
  let simulator := { simulator with readCalls := simulator.readCalls + 1 }
  if simulator.failReads then (.error (.unreachable device), simulator)
  else
    match simulator.devices.get? device with
    | none => (.error (.unreachable device), simulator)
    | some arrays => (arrays.readArrays wireIds, simulator)

instance : Client Simulator where
  write := Simulator.write
  read := Simulator.read

end Simulator

end MeterSync
