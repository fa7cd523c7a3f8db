import MeterSync.Id
import MeterSync.Keyword

/-!
# Logical meters

A meter is a rate-limiting policy for one cell of one device, in the controller's own terms. Its
bands may be of any number and kind; whether a pipeline can carry them is decided elsewhere.
-/

set_option autoImplicit false

namespace MeterSync

inductive BandKind where
  | drop
  | remark
  | experimenter
  | markYellow
  | markRed
  | uncolored
deriving DecidableEq, Repr

instance : Keyword BandKind where
  all := [.drop, .remark, .experimenter, .markYellow, .markRed, .uncolored]
  word
    | .drop => "DROP"
    | .remark => "REMARK"
    | .experimenter => "EXPERIMENTER"
    | .markYellow => "MARK_YELLOW"
    | .markRed => "MARK_RED"
    | .uncolored => "NONE"
  find_word value := by cases value <;> rfl

inductive RateUnit where
  | kilobytes
  | packets
  | bytes
deriving DecidableEq, Repr

instance : Keyword RateUnit where
  all := [.kilobytes, .packets, .bytes]
  word
    | .kilobytes => "KB_PER_SEC"
    | .packets => "PKTS_PER_SEC"
    | .bytes => "BYTES_PER_SEC"
  find_word value := by cases value <;> rfl

/-- Where a meter stands between being asked for and being gone. -/
inductive MeterState where
  | pendingAdd
  | added
  | pendingRemove
  | removed
deriving DecidableEq, Repr

instance : Keyword MeterState where
  all := [.pendingAdd, .added, .pendingRemove, .removed]
  word
    | .pendingAdd => "PENDING_ADD"
    | .added => "ADDED"
    | .pendingRemove => "PENDING_REMOVE"
    | .removed => "REMOVED"
  find_word value := by cases value <;> rfl

/-- A text that is no keyword where one is called for. -/
inductive KeywordError where
  | bandKind (text : String)
  | rateUnit (text : String)
deriving DecidableEq, Repr

/-- The wording of a refused keyword, with the text as it was given. -/
def KeywordError.message : KeywordError → String
  | .bandKind text => s!"invalid band type: {text}"
  | .rateUnit text => s!"invalid meter unit: {text}"

/-- The kind of band that a text names, small letters or capital. -/
def BandKind.ofText (text : String) : Except KeywordError BandKind :=
  match Keyword.ofText? text with
  | some kind => .ok kind
  | none => .error (.bandKind text)

/-- The rate unit that a text names, small letters or capital. -/
def RateUnit.ofText (text : String) : Except KeywordError RateUnit :=
  match Keyword.ofText? text with
  | some unit => .ok unit
  | none => .error (.rateUnit text)

/-- One band of a meter. The burst size may be left open. -/
structure MeterBand where
  kind : BandKind
  rate : UInt64
  burst : Option UInt64
deriving DecidableEq, Repr

/-- A policy for one cell of one device. A meter rebuilt from a device has no unit. -/
structure Meter where
  device : DeviceId
  cell : CellId
  bands : List MeterBand
  unit : Option RateUnit
  state : MeterState
deriving DecidableEq, Repr

def Meter.handle (meter : Meter) : CellHandle :=
  ⟨meter.device, meter.cell⟩

inductive OperationKind where
  | add
  | modify
  | remove
deriving DecidableEq, Repr

instance : Keyword OperationKind where
  all := [.add, .modify, .remove]
  word
    | .add => "ADD"
    | .modify => "MODIFY"
    | .remove => "REMOVE"
  find_word value := by cases value <;> rfl

/-- A request to install, change or remove one meter. -/
structure Operation where
  kind : OperationKind
  meter : Meter
deriving DecidableEq, Repr

end MeterSync
