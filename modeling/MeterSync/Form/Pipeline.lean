import MeterSync.Features
import MeterSync.Form.Meter

/-!
# Forms of pipelines

A pipeline is a record of its arrays and obeys its rules once it is read. An array does not say
what it counts unless it has a unit, and one without cells is refused only as part of a pipeline.
-/

set_option autoImplicit false

namespace MeterSync

open Document

variable {Δ : Type} {Reading : Type → Type} [Monad Reading] [MonadLiftT Option Reading]
  [Document Δ Reading]

def MeterArray.read? (document : Δ) : Reading MeterArray := do
  let record ← record? ["id", "p4_id", "size", "unit"] document
  let id ← required? record "id" MeterId.read?
  let wireId ← required? record "p4_id" half?
  let size ← required? record "size" whole?
  let unit ← optional? record "unit" .unspecified Keyword.read?
  return ⟨id, wireId, size, unit⟩

def MeterArray.toJson (array : MeterArray) : Json :=
  .record [("id", array.id.toJson), ("p4_id", .natural array.wireId.toNat),
    ("size", .natural array.size.toNat), ("unit", Keyword.toJson array.unit)]

/-- A pipeline. It has no arrays unless it names some. -/
def Pipeline.read? (document : Δ) : Reading Pipeline := do
  let record ← record? ["meters"] document
  let arrays ← optional? record "meters" [] (list? MeterArray.read?)
  liftM (Pipeline.ofArrays arrays).toOption

def Pipeline.toJson (pipeline : Pipeline) : Json :=
  .record [("meters", .array (pipeline.arrays.map (·.toJson)))]

def KeywordSet.read? {α : Type} [DecidableEq α] [Keyword α] (document : Δ) :
    Reading (KeywordSet α) := do
  return .ofList (← list? Keyword.read? document)

def KeywordSet.toJson {α : Type} [Keyword α] (set : KeywordSet α) : Json :=
  .array (set.toList.map Keyword.toJson)

def Features.read? (value : Json) : Option Features := do
  let record ← record?
    ["device_id", "scope", "max_bands", "max_colors", "start_index", "end_index", "band_types",
      "units", "has_burst", "has_stats"] value
  let device ← required? record "device_id" DeviceId.read?
  let scope ← required? record "scope" text?
  let maxBands ← required? record "max_bands" byte?
  let maxColors ← required? record "max_colors" byte?
  let startIndex ← required? record "start_index" whole?
  let endIndex ← required? record "end_index" whole?
  let bandKinds ← required? record "band_types" KeywordSet.read?
  let units ← required? record "units" KeywordSet.read?
  let hasBurst ← required? record "has_burst" Json.flag?
  let hasStats ← required? record "has_stats" Json.flag?
  return {
    device, scope, maxBands, maxColors, startIndex, endIndex, bandKinds, units, hasBurst, hasStats }

def Features.toJson (features : Features) : Json :=
  .record [("device_id", features.device.toJson), ("scope", .text features.scope),
    ("max_bands", .natural features.maxBands.toNat),
    ("max_colors", .natural features.maxColors.toNat),
    ("start_index", .natural features.startIndex.toNat),
    ("end_index", .natural features.endIndex.toNat),
    ("band_types", features.bandKinds.toJson), ("units", features.units.toJson),
    ("has_burst", .bool features.hasBurst), ("has_stats", .bool features.hasStats)]

end MeterSync
