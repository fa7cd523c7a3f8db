import MeterSync.Id

/-!
# Tables over cells

A table holds at most one value per cell handle. It is seen through `find?`, and each change says
what it does to that view.
-/

set_option autoImplicit false

namespace MeterSync

/-- At most one value for each cell of each device. -/
abbrev CellTable (α : Type) := Std.TreeMap CellHandle α

namespace CellTable

variable {α : Type}

def find? (table : CellTable α) (handle : CellHandle) : Option α :=
  table.get? handle

/-- The table with a value for a cell, in place of an earlier one. -/
def put (table : CellTable α) (handle : CellHandle) (value : α) : CellTable α :=
  table.insert handle value

def drop (table : CellTable α) (handle : CellHandle) : CellTable α :=
  table.erase handle

def ofDevice (table : CellTable α) (device : DeviceId) : List (CellHandle × α) :=
  table.toList.filter fun entry => entry.1.device = device

@[simp] theorem find?_empty (handle : CellHandle) :
    find? (∅ : CellTable α) handle = none := by
  simp [find?]

@[simp] theorem find?_put (table : CellTable α) (handle other : CellHandle) (value : α) :
    (table.put handle value).find? other =
      if handle = other then some value else table.find? other := by
  simp [find?, put, Std.TreeMap.getElem?_insert]

@[simp] theorem find?_drop (table : CellTable α) (handle other : CellHandle) :
    (table.drop handle).find? other = if handle = other then none else table.find? other := by
  simp [find?, drop, Std.TreeMap.getElem?_erase]

end CellTable

end MeterSync
