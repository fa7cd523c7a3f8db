import MeterSync.Pipeline

/-!
# Features

What the meter arrays of a device can do, as told to whoever wants to place a meter there.
-/

set_option autoImplicit false

namespace MeterSync

structure KeywordSet (α : Type) where
  has : α → Bool

namespace KeywordSet

variable {α : Type}

/-- The keywords of a list, however often each occurs there. -/
def ofList [DecidableEq α] (values : List α) : KeywordSet α :=
  ⟨fun value => decide (value ∈ values)⟩

def toList [Keyword α] (set : KeywordSet α) : List α :=
  Keyword.all.filter set.has

theorem mem_toList [Keyword α] {set : KeywordSet α} {value : α} :
    value ∈ set.toList ↔ set.has value = true := by
  simp [toList, Keyword.mem_all]

theorem ofList_toList [DecidableEq α] [Keyword α] (set : KeywordSet α) :
    ofList set.toList = set := by
  cases set
  simp [ofList, mem_toList]

end KeywordSet

/-- What one meter array can do. The scope is the name of the array. -/
structure Features where
  device : DeviceId
  scope : String
  maxBands : UInt8
  maxColors : UInt8
  startIndex : UInt64
  endIndex : UInt64
  bandKinds : KeywordSet BandKind
  units : KeywordSet RateUnit
  hasBurst : Bool
  hasStats : Bool

/-- Two uncolored bands with bursts on every cell, in the unit that the array counts; no
statistics. An array without cells would end where it starts. -/
def MeterArray.features (array : MeterArray) (device : DeviceId) : Features where
  device
  scope := array.id.text
  maxBands := 2
  maxColors := 3
  startIndex := 0
  endIndex := if array.size = 0 then 0 else array.size - 1
  bandKinds := .ofList [.uncolored]
  units := .ofList array.unit.rateUnit?.toList
  hasBurst := true
  hasStats := false

/-- The features of every array of a pipeline, in its order. -/
def Pipeline.features (pipeline : Pipeline) (device : DeviceId) : List Features :=
  pipeline.arrays.map (·.features device)

end MeterSync
