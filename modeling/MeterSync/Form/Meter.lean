import MeterSync.Meter
import MeterSync.Form.Cell

/-!
# Forms of meters

A keyword is its word. A band is uncolored unless it says otherwise and may leave its burst size
open; a meter may leave its unit open and waits to be added unless it says otherwise.
-/

set_option autoImplicit false

namespace MeterSync

open Document

variable {Δ : Type} {Reading : Type → Type} [Monad Reading] [MonadLiftT Option Reading]
  [Document Δ Reading]

def Keyword.read? {α : Type} [Keyword α] (document : Δ) : Reading α := do
  liftM (Keyword.ofWord? (← word? document) : Option α)

def Keyword.toJson {α : Type} [Keyword α] (keyword : α) : Json :=
  .text (Keyword.word keyword)

def Json.nullable {α : Type} (write : α → Json) : Option α → Json
  | none => .null
  | some value => write value

def MeterBand.read? (document : Δ) : Reading MeterBand := do
  let record ← record? ["type", "rate", "burst_size"] document
  let kind ← optional? record "type" .uncolored Keyword.read?
  let rate ← required? record "rate" whole?
  let burst ← optional? record "burst_size" none (nullable? whole?)
  return ⟨kind, rate, burst⟩

def MeterBand.toJson (band : MeterBand) : Json :=
  .record [("type", Keyword.toJson band.kind), ("rate", .natural band.rate.toNat),
    ("burst_size", Json.nullable (fun burst => .natural burst.toNat) band.burst)]

def Meter.read? (document : Δ) : Reading Meter := do
  let record ← record? ["device_id", "cell_id", "bands", "unit", "state"] document
  let device ← required? record "device_id" DeviceId.read?
  let cell ← required? record "cell_id" CellId.read?
  let bands ← required? record "bands" (list? MeterBand.read?)
  let unit ← optional? record "unit" none (nullable? Keyword.read?)
  let state ← optional? record "state" .pendingAdd Keyword.read?
  return ⟨device, cell, bands, unit, state⟩

def Meter.toJson (meter : Meter) : Json :=
  .record [("device_id", meter.device.toJson), ("cell_id", meter.cell.toJson),
    ("bands", .array (meter.bands.map (·.toJson))),
    ("unit", Json.nullable Keyword.toJson meter.unit), ("state", Keyword.toJson meter.state)]

end MeterSync
