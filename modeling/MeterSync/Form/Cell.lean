import MeterSync.CellConfig
import MeterSync.Json.Extent
import MeterSync.Json.Reading

/-!
# Forms of cells

Identifiers are texts and are checked while they are read; cells and bands are records. The state
of a cell is a record that says which state it is, and its bands are read as they stand, in
whichever order they are.
-/

set_option autoImplicit false

namespace MeterSync

open Document

variable {Δ : Type} {Reading : Type → Type} [Monad Reading] [MonadLiftT Option Reading]
  [Document Δ Reading]

/-! ## Identifiers -/

def DeviceId.read? (document : Δ) : Reading DeviceId := do
  liftM (DeviceId.ofText (← text? document)).toOption

def MeterId.read? (document : Δ) : Reading MeterId := do
  liftM (MeterId.ofText (← text? document)).toOption

def DeviceId.toJson (device : DeviceId) : Json :=
  .text device.text

def MeterId.toJson (meter : MeterId) : Json :=
  .text meter.text

def CellId.read? (document : Δ) : Reading CellId := do
  let record ← record? ["meter_id", "index"] document
  let meter ← required? record "meter_id" MeterId.read?
  let index ← required? record "index" whole?
  return ⟨meter, index⟩

def CellId.toJson (cell : CellId) : Json :=
  .record [("meter_id", cell.meter.toJson), ("index", .natural cell.index.toNat)]

def CellHandle.read? (document : Δ) : Reading CellHandle := do
  let record ← record? ["device_id", "cell_id"] document
  let device ← required? record "device_id" DeviceId.read?
  let cell ← required? record "cell_id" CellId.read?
  return ⟨device, cell⟩

def CellHandle.toJson (handle : CellHandle) : Json :=
  .record [("device_id", handle.device.toJson), ("cell_id", handle.cell.toJson)]

/-! ## Bands and states -/

def Band.read? (document : Δ) : Reading Band := do
  let record ← record? ["rate", "burst"] document
  let rate ← required? record "rate" whole?
  let burst ← required? record "burst" whole?
  return ⟨rate, burst⟩

def Band.toJson (band : Band) : Json :=
  .record [("rate", .natural band.rate.toNat), ("burst", .natural band.burst.toNat)]

/-- The state with a name, given the members that come with it. A reset has none by position and
passes over those that it has by name. -/
def CellState.ofTagged? (tag : String) (content : Json) : Option CellState :=
  if tag = "reset" then
    match content with
    | .array (_ :: _) => none
    | _ => some .reset
  else if tag = "modify" then do
    let record ← record? ["committed", "peak"] content
    let committed ← required? record "committed" Band.read?
    let peak ← required? record "peak" Band.read?
    return .modify committed peak
  else none

/-- A state by its tag, which comes first by position and anywhere by name. What comes with the
tag is kept until the tag is known, within this many levels. -/
def CellState.read? (room : Nat) (value : Json) : Option CellState :=
  if value.isKept room then
    match value with
    | .array (tag :: items) =>
      (text? tag).bind fun tag => CellState.ofTagged? tag (.array items)
    | .object members =>
      match members.filter (fun member => member.1 = some "state") with
      | [(_, tag)] =>
        (text? tag).bind fun tag =>
          CellState.ofTagged? tag
            (.object (members.filter fun member => member.1 ≠ some "state"))
      | _ => none
    | _ => none
  else none

def CellState.toJson : CellState → Json
  | .reset => .record [("state", .text "reset")]
  | .modify committed peak =>
    .record [("state", .text "modify"), ("committed", committed.toJson), ("peak", peak.toJson)]

/-! ## Configurations -/

def CellConfig.read? (value : Json) : Option CellConfig := do
  let record ← record? ["cell_id", "bands"] value
  let cell ← required? record "cell_id" CellId.read?
  let state ← required? record "bands" (CellState.read? (Json.maxHeight - 1))
  return ⟨cell, state⟩

def CellConfig.toJson (config : CellConfig) : Json :=
  .record [("cell_id", config.cell.toJson), ("bands", config.state.toJson)]

end MeterSync
