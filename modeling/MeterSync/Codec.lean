import MeterSync.CellConfig
import MeterSync.Pipeline
import MeterSync.Wire.Entry

/-!
# Cells on the wire

A pipeline gives every cell a wire key and back, and a cell configuration becomes a meter entry. An
entry without configuration is a reset; two bands are written in order, committed first. Numbers
are signed on the wire and unsigned here, so both directions can fail.
-/

set_option autoImplicit false

namespace MeterSync

/-- The numbers of an entry that may be out of range. -/
inductive WireNumber where
  | index
  | cir
  | cburst
  | pir
  | pburst
deriving DecidableEq, Repr

def WireNumber.word : WireNumber → String
  | .index => "index"
  | .cir => "cir"
  | .cburst => "cburst"
  | .pir => "pir"
  | .pburst => "pburst"

/-- Why a cell and an entry do not correspond. -/
inductive CodecError where
  | bandCount (found : Nat)
  | unknownMeter (id : MeterId)
  | unknownWireId (wireId : UInt32)
  | missingIndex (wireId : UInt32)
  | outOfRange (number : WireNumber) (value : Int)
deriving DecidableEq, Repr

def CodecError.message : CodecError → String
  | .bandCount found =>
    s!"number of meter bands should be 2 (modify) or 0 (reset), found {found}"
  | .unknownMeter id => s!"meter {id.text} not found in pipeline"
  | .unknownWireId wireId => s!"meter id {wireId.toNat} not found in pipeline"
  | .missingIndex wireId => s!"meter entry for meter id {wireId.toNat} has no index"
  | .outOfRange number value => s!"{number.word} value {value} out of range"

namespace Codec

def maxWireValue : UInt64 := 0x7FFFFFFFFFFFFFFF

/-- An unsigned number on the wire; it must not be larger than the wire can carry. -/
def toWire (number : WireNumber) (value : UInt64) : Except CodecError Int64 :=
  if value ≤ maxWireValue then .ok value.toInt64 else .error (.outOfRange number value.toNat)

/-- A number read from the wire; it must not be negative. -/
def fromWire (number : WireNumber) (value : Int64) : Except CodecError UInt64 :=
  if 0 ≤ value.toInt then .ok value.toUInt64 else .error (.outOfRange number value.toInt)

/-- The wire configuration of a committed and a peak band. -/
def pairToWire (committed peak : Band) : Except CodecError Wire.Config := do
  let cir ← toWire .cir committed.rate
  let cburst ← toWire .cburst committed.burst
  let pir ← toWire .pir peak.rate
  let pburst ← toWire .pburst peak.burst
  return ⟨cir, cburst, pir, pburst⟩

/-- The wire configuration of a list of bands: none for a reset, and two bands in order. -/
def bandsToWire (bands : List Band) : Except CodecError (Option Wire.Config) :=
  match bands with
  | [] => .ok none
  | [first, second] =>
    (pairToWire (first.order second).1 (first.order second).2).map some
  | _ => .error (.bandCount bands.length)

/-- The configuration of a cell, as the wire has it. An absent configuration is a reset; one of
zeros is two bands of zeros. -/
def configOfWire (cell : CellId) (config : Option Wire.Config) : Except CodecError CellConfig :=
  match config with
  | none => .ok (.reset cell)
  | some config => do
    let cir ← fromWire .cir config.cir
    let cburst ← fromWire .cburst config.cburst
    let pir ← fromWire .pir config.pir
    let pburst ← fromWire .pburst config.pburst
    return .modify cell ⟨cir, cburst⟩ ⟨pir, pburst⟩

/-- The entry that addresses a cell and says nothing else. -/
def encodeKey (pipeline : Pipeline) (cell : CellId) : Except CodecError Wire.Entry :=
  match pipeline.array? cell.meter with
  | none => .error (.unknownMeter cell.meter)
  | some array => do
    let index ← toWire .index cell.index
    return ⟨array.wireId, some index, none⟩

def encode (pipeline : Pipeline) (config : CellConfig) : Except CodecError Wire.Entry := do
  let key ← encodeKey pipeline config.cell
  let wire ← bandsToWire config.bands
  return { key with config := wire }

def decodeKey (pipeline : Pipeline) (entry : Wire.Entry) : Except CodecError CellId :=
  match pipeline.arrayOfWireId? entry.meterId with
  | none => .error (.unknownWireId entry.meterId)
  | some array =>
    match entry.index with
    | none => .error (.missingIndex entry.meterId)
    | some index => do
      let index ← fromWire .index index
      return ⟨array.id, index⟩

def decode (pipeline : Pipeline) (entry : Wire.Entry) : Except CodecError CellConfig := do
  let cell ← decodeKey pipeline entry
  configOfWire cell entry.config

end Codec

end MeterSync
