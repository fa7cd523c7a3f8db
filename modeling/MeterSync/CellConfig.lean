import MeterSync.Id
import MeterSync.Band

/-!
# Cell configurations

What a device holds for one cell: either nothing, or a committed and a peak band. The builders put
two bands in order, so the order in which they are given does not show.
-/

set_option autoImplicit false

namespace MeterSync

/-- The bands of a cell: none, or a committed and a peak band. -/
inductive CellState where
  | reset
  | modify (committed peak : Band)
deriving DecidableEq, Repr

/-- The state of one cell, as held by a device or meant for it. -/
structure CellConfig where
  cell : CellId
  state : CellState
deriving DecidableEq, Repr

/-- A number of bands that no cell can hold. -/
structure BandCountError where
  found : Nat
deriving DecidableEq, Repr

def BandCountError.message (error : BandCountError) : String :=
  s!"invalid band count: {error.found} (must be 0 or 2)"

namespace CellConfig

def reset (cell : CellId) : CellConfig :=
  ⟨cell, .reset⟩

/-- The cell with two bands, given in either order. -/
def modify (cell : CellId) (first second : Band) : CellConfig :=
  ⟨cell, .modify (first.order second).1 (first.order second).2⟩

/-- The cell with a list of bands: none, or two in either order. -/
def ofBands (cell : CellId) (bands : List Band) : Except BandCountError CellConfig :=
  match bands with
  | [] => .ok (reset cell)
  | [first, second] => .ok (modify cell first second)
  | _ => .error ⟨bands.length⟩

/-- The bands of a cell, the committed one first. -/
def bands (config : CellConfig) : List Band :=
  match config.state with
  | .reset => []
  | .modify committed peak => [committed, peak]

def committed? (config : CellConfig) : Option Band :=
  match config.state with
  | .reset => none
  | .modify committed _ => some committed

def peak? (config : CellConfig) : Option Band :=
  match config.state with
  | .reset => none
  | .modify _ peak => some peak

/-- A cell without bands is in its default state. Bands of rate zero are still bands. -/
def isDefault (config : CellConfig) : Bool :=
  match config.state with
  | .reset => true
  | .modify .. => false

/-- A configuration reads as its cell and then its bands. -/
def describe (config : CellConfig) : String :=
  match config.state with
  | .reset => s!"{config.cell.describe} (default)"
  | .modify committed peak =>
    s!"{config.cell.describe} committed[{committed.describe}] peak[{peak.describe}]"

end CellConfig

/-- The handle of a configured cell on a device. -/
def CellConfig.handle (config : CellConfig) (device : DeviceId) : CellHandle :=
  ⟨device, config.cell⟩

end MeterSync
