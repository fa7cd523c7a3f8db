import MeterSync.CellConfig
import MeterSync.Pipeline

/-!
# Resolving meters

A pipeline can carry a logical meter if it has the cell, counts in the unit of the meter, and both
bands are uncolored, have a burst and fit the wire. The meter then resolves to a cell configuration.
-/

set_option autoImplicit false

namespace MeterSync

inductive BandNumber where
  | rate
  | burst
deriving DecidableEq, Repr

def BandNumber.word : BandNumber → String
  | .rate => "rate"
  | .burst => "burst"

/-- Why a pipeline cannot carry a meter. Bands are counted from 0. -/
inductive ResolutionError where
  | unknownMeter (id : MeterId)
  | indexOutOfRange (id : MeterId) (index size : UInt64)
  | bandCount (found : Nat)
  | missingBurst (band : Nat)
  | unsupportedBandKind (kind : BandKind)
  | unsupportedUnit (id : MeterId) (unit : RateUnit)
  | valueOutOfRange (band : Nat) (number : BandNumber) (value : UInt64)
deriving DecidableEq, Repr

/-- The wording of a meter that a pipeline cannot carry. -/
def ResolutionError.message : ResolutionError → String
  | .unknownMeter id => s!"meter {id.text} is not defined in the pipeline"
  | .indexOutOfRange id index size =>
    s!"index {index.toNat} out of range for meter {id.text} (size {size.toNat})"
  | .bandCount found => s!"meter must have exactly 2 bands, found {found}"
  | .missingBurst band => s!"band {band} has no burst size"
  | .unsupportedBandKind kind => s!"band type {Keyword.word kind} is not supported"
  | .unsupportedUnit id unit => s!"unit {Keyword.word unit} not supported by meter {id.text}"
  | .valueOutOfRange band number value =>
    s!"band {band} {number.word} {value.toNat} exceeds the wire range"

/-- The largest rate or burst that the wire can carry. -/
def maxBandValue : UInt64 := 0x7FFFFFFFFFFFFFFF

/-- The device band of the meter band at a position. The kind is looked at first, then whether
there is a burst, then the rate and the burst. -/
def MeterBand.resolve (position : Nat) (band : MeterBand) : Except ResolutionError Band :=
  if band.kind ≠ .uncolored then .error (.unsupportedBandKind band.kind)
  else
    match band.burst with
    | none => .error (.missingBurst position)
    | some burst =>
      if maxBandValue < band.rate then .error (.valueOutOfRange position .rate band.rate)
      else if maxBandValue < burst then .error (.valueOutOfRange position .burst burst)
      else .ok ⟨band.rate, burst⟩

/-- The configuration that a meter stands for on this pipeline. The cell is looked at first, then
the unit, then the number of bands, then the bands one by one. -/
def Pipeline.resolve (pipeline : Pipeline) (meter : Meter) :
    Except ResolutionError CellConfig :=
  match pipeline.array? meter.cell.meter with
  | none => .error (.unknownMeter meter.cell.meter)
  | some array =>
    if array.size ≤ meter.cell.index then
      .error (.indexOutOfRange meter.cell.meter meter.cell.index array.size)
    else
      match meter.unit.filter (fun unit => array.unit.rateUnit? ≠ some unit) with
      | some unit => .error (.unsupportedUnit meter.cell.meter unit)
      | none =>
        match meter.bands with
        | [first, second] => do
          let first ← first.resolve 0
          let second ← second.resolve 1
          return .modify meter.cell first second
        | bands => .error (.bandCount bands.length)

end MeterSync
