import Std.Data.TreeMap
import MeterSync.Text.Blank

/-!
# Identifiers

Devices and meter arrays go by name; one cell of an array is addressed by its index, and a handle
addresses a cell across all devices. Every identifier is ordered by its text, code point by code
point, and a compound one by its parts from left to right.
-/

set_option autoImplicit false

namespace MeterSync

inductive IdError where
  | blankDevice
  | blankMeter
deriving DecidableEq, Repr

def IdError.message : IdError → String
  | .blankDevice => "device id must not be empty"
  | .blankMeter => "meter id must not be empty"

/-- A forwarding device, known by a name that is not blank. -/
structure DeviceId where
  text : String
  marked : isBlank text = false
deriving DecidableEq, Repr

/-- A meter array of a pipeline, known by a name that is not blank. -/
structure MeterId where
  text : String
  marked : isBlank text = false
deriving DecidableEq, Repr

/-- The device with this name. The text is kept as it stands, blanks around it included. -/
def DeviceId.ofText (text : String) : Except IdError DeviceId :=
  if marked : isBlank text = false then .ok ⟨text, marked⟩ else .error .blankDevice

/-- The meter array with this name. The text is kept as it stands, blanks around it included. -/
def MeterId.ofText (text : String) : Except IdError MeterId :=
  if marked : isBlank text = false then .ok ⟨text, marked⟩ else .error .blankMeter

structure CellId where
  meter : MeterId
  index : UInt64
deriving DecidableEq, Repr

structure CellHandle where
  device : DeviceId
  cell : CellId
deriving DecidableEq, Repr

/-- A cell reads as its array with the index in brackets. -/
def CellId.describe (cell : CellId) : String :=
  s!"{cell.meter.text}[{cell.index.toNat}]"

/-- A handle reads as the device and the cell with a slash between them. -/
def CellHandle.describe (handle : CellHandle) : String :=
  s!"{handle.device.text}/{handle.cell.describe}"

/-! ## Order -/

instance : Ord DeviceId where
  compare := compareOn DeviceId.text

instance : Ord MeterId where
  compare := compareOn MeterId.text

instance : Ord CellId where
  compare := compareLex (compareOn CellId.meter) (compareOn CellId.index)

instance : Ord CellHandle where
  compare := compareLex (compareOn CellHandle.device) (compareOn CellHandle.cell)

instance : Std.TransOrd DeviceId :=
  inferInstanceAs (Std.TransCmp (compareOn DeviceId.text))

instance : Std.TransOrd MeterId :=
  inferInstanceAs (Std.TransCmp (compareOn MeterId.text))

instance : Std.TransOrd CellId :=
  inferInstanceAs (Std.TransCmp (compareLex (compareOn CellId.meter) (compareOn CellId.index)))

instance : Std.TransOrd CellHandle :=
  inferInstanceAs
    (Std.TransCmp (compareLex (compareOn CellHandle.device) (compareOn CellHandle.cell)))

instance : Std.LawfulEqOrd DeviceId where
  eq_of_compare {first second} equal := by
    have texts : first.text = second.text := Std.LawfulEqOrd.eq_of_compare equal
    cases first
    cases second
    simpa using texts

instance : Std.LawfulEqOrd MeterId where
  eq_of_compare {first second} equal := by
    have texts : first.text = second.text := Std.LawfulEqOrd.eq_of_compare equal
    cases first
    cases second
    simpa using texts

instance : Std.LawfulEqOrd CellId where
  eq_of_compare {first second} equal := by
    obtain ⟨meters, indices⟩ := compareLex_eq_eq.mp equal
    have sameMeter : first.meter = second.meter := Std.LawfulEqOrd.eq_of_compare meters
    have sameIndex : first.index = second.index := Std.LawfulEqOrd.eq_of_compare indices
    cases first
    cases second
    simp_all

instance : Std.LawfulEqOrd CellHandle where
  eq_of_compare {first second} equal := by
    obtain ⟨devices, cells⟩ := compareLex_eq_eq.mp equal
    have sameDevice : first.device = second.device := Std.LawfulEqOrd.eq_of_compare devices
    have sameCell : first.cell = second.cell := Std.LawfulEqOrd.eq_of_compare cells
    cases first
    cases second
    simp_all

def CellHandle.sort (handles : List CellHandle) : List CellHandle :=
  handles.mergeSort fun first second => (compare first second).isLE

/-! ## Names and their texts -/

theorem DeviceId.ofText_text (device : DeviceId) : DeviceId.ofText device.text = .ok device := by
  simp [DeviceId.ofText, device.marked]

theorem MeterId.ofText_text (meter : MeterId) : MeterId.ofText meter.text = .ok meter := by
  simp [MeterId.ofText, meter.marked]

end MeterSync
