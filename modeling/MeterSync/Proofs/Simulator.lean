import MeterSync.Simulator
import MeterSync.Proofs.Wire.Message

/-!
# Cells of simulated devices

Simulated devices are seen through what their cells hold. Bytes lose nothing, so an entry reaches
its device as it was sent. A write changes the cell of each entry that is accepted and no other
cell, and a read finds every cell of the arrays asked for, by ascending index.
-/

set_option autoImplicit false

namespace MeterSync

theorem Wire.Entry.overWire_eq (entry : Wire.Entry) : entry.overWire = some entry :=
  entry.decode_encode

theorem get?_insert {Key Value : Type} [Ord Key] [Std.TransOrd Key] [Std.LawfulEqOrd Key]
    [DecidableEq Key] (table : Std.TreeMap Key Value) (key other : Key) (value : Value) :
    (table.insert key value).get? other = if key = other then some value else table.get? other := by
  simp [Std.TreeMap.getElem?_insert]

/-- A table filled from values with distinct keys has exactly those. -/
theorem get?_foldl_insert_iff {Source Key Value : Type} [Ord Key] [Std.TransOrd Key]
    [Std.LawfulEqOrd Key] [DecidableEq Key] {sources : List Source} {key : Source → Key}
    {image : Source → Value} (distinct : (sources.map key).Nodup)
    {table : Std.TreeMap Key Value} (fresh : ∀ source ∈ sources, table.get? (key source) = none)
    {wanted : Key} {value : Value} :
    (sources.foldl (fun table source => table.insert (key source) (image source)) table).get?
        wanted = some value ↔
      (∃ source ∈ sources, key source = wanted ∧ image source = value) ∨
        table.get? wanted = some value := by
  induction sources generalizing table with
  | nil => simp
  | cons source sources ih =>
      obtain ⟨first, others⟩ := List.nodup_cons.mp distinct
      obtain ⟨vacant, later⟩ := List.forall_mem_cons.mp fresh
      have apart : ∀ other ∈ sources, key source ≠ key other := by
        intro other member same
        exact first (List.mem_map.mpr ⟨other, member, same.symm⟩)
      rw [List.foldl_cons, ih others fun other member => by
        rw [get?_insert, if_neg (apart other member)]
        exact later other member]
      rw [get?_insert]
      by_cases here : key source = wanted
      · subst here
        rw [if_pos rfl, vacant]
        simp [or_comm]
      · simp [here]

/-- What every cell of every device holds, by device, wire id and index. -/
abbrev CellView := DeviceId → UInt32 → Int64 → Option Wire.Config

/-- The view with one cell changed. -/
def CellView.set (cells : CellView) (device : DeviceId) (wireId : UInt32) (index : Int64)
    (config : Option Wire.Config) : CellView :=
  fun otherDevice otherId otherIndex =>
    if otherDevice = device ∧ otherId = wireId ∧ otherIndex = index then config
    else cells otherDevice otherId otherIndex

theorem CellView.set_same (cells : CellView) (device : DeviceId) (wireId : UInt32) (index : Int64)
    (config : Option Wire.Config) :
    cells.set device wireId index config device wireId index = config := by
  simp [set]

/-- The view with the cells of one device changed. -/
def CellView.replace (cells : CellView) (device : DeviceId)
    (arrays : UInt32 → Int64 → Option Wire.Config) : CellView :=
  fun other => if other = device then arrays else cells other

namespace SimulatedDevice

/-- The size of an array of a device. -/
def size? (device : SimulatedDevice) (wireId : UInt32) : Option UInt64 :=
  (device.get? wireId).map (·.size)

theorem setCell_of_known {device : SimulatedDevice} {wireId : UInt32} {array : SimulatedArray}
    (known : device.get? wireId = some array) (index : Int64) (config : Option Wire.Config) :
    device.setCell wireId index config =
      Std.TreeMap.insert device wireId
        ⟨array.size, config.elim (array.cells.erase index) (array.cells.insert index)⟩ := by
  cases config <;> simp only [setCell, known, Option.elim]

theorem size?_setCell (device : SimulatedDevice) (wireId otherId : UInt32) (index : Int64)
    (config : Option Wire.Config) :
    (device.setCell wireId index config).size? otherId = device.size? otherId := by
  cases known : device.get? wireId with
  | none => simp only [setCell, known]
  | some array =>
      rw [setCell_of_known known, size?, get?_insert]
      by_cases same : wireId = otherId
      · subst same
        simp only [if_true, Option.map_some, size?, known]
      · simp only [same, if_false, size?]

theorem cell?_setCell {device : SimulatedDevice} {wireId : UInt32}
    (known : (device.size? wireId).isSome) (index : Int64) (config : Option Wire.Config)
    (otherId : UInt32) (otherIndex : Int64) :
    (device.setCell wireId index config).cell? otherId otherIndex =
      if otherId = wireId ∧ otherIndex = index then config
      else device.cell? otherId otherIndex := by
  cases found : device.get? wireId with
  | none =>
      simp only [size?, found] at known
      cases known
  | some array =>
      rw [setCell_of_known found, cell?, get?_insert]
      by_cases sameId : wireId = otherId
      · subst sameId
        simp only [if_true, Option.bind_some, true_and, cell?, found]
        cases config with
        | none =>
            simp only [Option.elim, Std.TreeMap.get?_eq_getElem?, Std.TreeMap.getElem?_erase,
              Std.LawfulEqCmp.compare_eq_iff_eq]
            grind
        | some config =>
            simp only [Option.elim, get?_insert]
            grind
      · have other : otherId ≠ wireId := fun same => sameId same.symm
        simp only [sameId, other, if_false, false_and, cell?]

theorem size?_ofPipeline {pipeline : Pipeline} {array : MeterArray}
    (member : array ∈ pipeline.arrays) :
    (ofPipeline pipeline).size? array.wireId = some array.size := by
  have known : (ofPipeline pipeline).get? array.wireId = some ⟨array.size, ∅⟩ :=
    (get?_foldl_insert_iff pipeline.wireIds_distinct fun _ _ => by simp).mpr
      (.inl ⟨array, member, rfl, rfl⟩)
  rw [size?, known]
  rfl

/-! ## Writing -/

theorem target_eq_ok_iff {device : SimulatedDevice} {entry : Wire.Entry}
    {key : UInt32 × Int64} :
    device.target entry = .ok key ↔
      ∃ size index, device.size? entry.meterId = some size ∧ entry.index = some index ∧
        0 ≤ index.toInt ∧ index.toInt < size.toNat ∧ (entry.meterId, index) = key := by
  rw [target]
  cases known : device.get? entry.meterId with
  | none =>
      simp only [size?, known, Option.map_none]
      simp
  | some array =>
      cases given : entry.index with
      | none => simp
      | some index =>
          simp only [size?, known, Option.map_some]
          by_cases outside : index.toInt < 0 ∨ (array.size.toNat : Int) ≤ index.toInt
          · rw [if_pos outside]
            constructor
            · intro aimed
              cases aimed
            · intro aimed
              rcases aimed with ⟨_, _, ⟨⟩, ⟨⟩, unsigned, inside, _⟩
              omega
          · rw [if_neg outside]
            constructor
            · rintro ⟨⟩
              exact ⟨_, _, rfl, rfl, by omega, by omega, rfl⟩
            · intro aimed
              rcases aimed with ⟨_, _, ⟨⟩, ⟨⟩, _, _, rfl⟩
              rfl

theorem writeEntry_eq (device : SimulatedDevice) (entry : Wire.Entry) :
    device.writeEntry entry =
      match device.target entry with
      | .error reason => (some reason, device)
      | .ok key => (none, device.setCell key.1 key.2 entry.config) := by
  rw [writeEntry, entry.overWire_eq]
  dsimp only
  cases device.target entry <;> rfl

/-- A refused entry changes nothing, and an accepted one changes the cell that it addresses. -/
theorem writeEntry_cases (device : SimulatedDevice) (entry : Wire.Entry) :
    (∃ reason, device.writeEntry entry = (some reason, device)) ∨
      ∃ index, entry.index = some index ∧ (device.size? entry.meterId).isSome ∧
        device.writeEntry entry = (none, device.setCell entry.meterId index entry.config) := by
  rw [writeEntry_eq]
  cases aimed : device.target entry with
  | error reason => exact .inl ⟨reason, rfl⟩
  | ok key =>
      obtain ⟨size, index, known, given, _, _, rfl⟩ := target_eq_ok_iff.mp aimed
      exact .inr ⟨index, given, by simp [known], rfl⟩

/-! ## Reading -/

/-- The entry of one cell as a read finds it. -/
def entryAt (device : SimulatedDevice) (wireId : UInt32) (index : Int64) : Wire.Entry :=
  ⟨wireId, some index, device.cell? wireId index⟩

/-- The entries of an array by ascending index; none if the array is unknown. -/
def scan (device : SimulatedDevice) (wireId : UInt32) : List Wire.Entry :=
  match device.get? wireId with
  | none => []
  | some array =>
    (List.range (cellCount array)).map fun index => device.entryAt wireId (Int64.ofNat index)

theorem readArray_eq {device : SimulatedDevice} {wireId : UInt32} {array : SimulatedArray}
    (known : device.get? wireId = some array) :
    readArray wireId array = some (device.scan wireId) := by
  have found (index : Int64) :
      Wire.Entry.overWire ⟨wireId, some index, array.cells.get? index⟩ =
        some (device.entryAt wireId index) := by
    rw [Wire.Entry.overWire_eq, entryAt, cell?, known, Option.bind_some]
  simp only [readArray, scan, known, found]
  exact List.mapM_pure

theorem readArrays_eq_ok_iff {device : SimulatedDevice} {wireIds : List UInt32}
    {entries : List Wire.Entry} :
    device.readArrays wireIds = .ok entries ↔
      (∀ wireId ∈ wireIds, (device.size? wireId).isSome) ∧
        wireIds.flatMap device.scan = entries := by
  induction wireIds generalizing entries with
  | nil => simp [readArrays]
  | cons wireId wireIds ih =>
      cases known : device.get? wireId with
      | none =>
          simp only [readArrays, known, List.forall_mem_cons, size?, Option.map_none]
          simp
      | some array =>
          have sized : (device.size? wireId).isSome := by
            simp only [size?, known, Option.map_some, Option.isSome_some]
          simp only [readArrays, known, readArray_eq known, List.forall_mem_cons, sized, true_and,
            List.flatMap_cons]
          cases later : device.readArrays wireIds with
          | error error =>
              have unknown : ¬ ∀ wireId ∈ wireIds, (device.size? wireId).isSome := by
                intro all
                have read := ih.mpr ⟨all, rfl⟩
                rw [later] at read
                cases read
              constructor
              · intro read
                cases read
              · intro scanned
                rcases scanned with ⟨all, _⟩
                exact absurd all unknown
          | ok rest =>
              obtain ⟨all, rfl⟩ := ih.mp later
              constructor
              · rintro ⟨⟩
                exact ⟨all, rfl⟩
              · intro scanned
                rcases scanned with ⟨_, rfl⟩
                rfl

/-- Every entry of an array shows what its cell holds, at an index that is not negative. -/
theorem mem_scan {device : SimulatedDevice} {wireId : UInt32} {entry : Wire.Entry}
    (member : entry ∈ device.scan wireId) :
    ∃ index, 0 ≤ index.toInt ∧ entry = device.entryAt wireId index := by
  rw [scan] at member
  split at member
  · cases member
  · rename_i array _
    obtain ⟨index, inside, rfl⟩ := List.mem_map.mp member
    have bound := array.size.toInt64.toInt_lt
    have small : index < 2 ^ 63 := by
      have := List.mem_range.mp inside
      rw [cellCount] at this
      omega
    refine ⟨Int64.ofNat index, ?_, rfl⟩
    rw [Int64.toInt_ofNat_of_lt small]
    exact Int.natCast_nonneg _

end SimulatedDevice

theorem CellView.replace_setCell (cells : CellView) (device : DeviceId)
    {arrays : SimulatedDevice} {wireId : UInt32} (known : (arrays.size? wireId).isSome)
    (index : Int64) (config : Option Wire.Config) :
    cells.replace device (arrays.setCell wireId index config).cell? =
      (cells.replace device arrays.cell?).set device wireId index config := by
  funext other otherId otherIndex
  by_cases same : other = device
  · simp only [replace, set, same, true_and, if_true,
      SimulatedDevice.cell?_setCell known index config]
  · simp only [replace, set, same, if_false, false_and]

namespace Simulator

/-- What the cells of all devices hold. -/
def cells (simulator : Simulator) : CellView :=
  simulator.cell?

theorem cells_eq {simulator : Simulator} {device : DeviceId} {arrays : SimulatedDevice}
    (known : simulator.devices.get? device = some arrays) :
    simulator.cells device = arrays.cell? := by
  funext wireId index
  rw [cells, cell?, known, Option.bind_some]

theorem cells_insert (simulator : Simulator) (device : DeviceId) (arrays : SimulatedDevice) :
    { simulator with devices := simulator.devices.insert device arrays }.cells =
      simulator.cells.replace device arrays.cell? := by
  funext other wireId index
  by_cases same : other = device
  · subst same
    simp only [cells, cell?, get?_insert, if_true, Option.bind_some, CellView.replace]
  · have differs : device ≠ other := fun equal => same equal.symm
    simp only [cells, cell?, get?_insert, differs, same, if_false, CellView.replace]

theorem replace_cells {simulator : Simulator} {device : DeviceId} {arrays : SimulatedDevice}
    (known : simulator.devices.get? device = some arrays) :
    simulator.cells.replace device arrays.cell? = simulator.cells := by
  funext other
  by_cases same : other = device
  · subst same
    rw [CellView.replace, if_pos rfl, cells_eq known]
  · rw [CellView.replace, if_neg same]

/-! ## Fresh devices -/

/-- Devices with the arrays of some pipelines, and nothing in any cell. A device that is given
twice has the arrays that were given last. -/
def ofDevices (placed : List (DeviceId × Pipeline)) : Simulator :=
  placed.foldl (fun simulator entry => simulator.addDevice entry.1 entry.2) .empty

theorem cell?_ofPipeline (pipeline : Pipeline) (wireId : UInt32) (index : Int64) :
    (SimulatedDevice.ofPipeline pipeline).cell? wireId index = none := by
  refine List.foldlRecOn
    (motive := fun device : SimulatedDevice => device.cell? wireId index = none)
    pipeline.arrays _ rfl ?_
  intro device vacant array _
  rw [SimulatedDevice.cell?, get?_insert]
  split
  · simp
  · exact vacant

theorem cells_ofDevices (placed : List (DeviceId × Pipeline)) (device : DeviceId)
    (wireId : UInt32) (index : Int64) : (ofDevices placed).cells device wireId index = none := by
  refine List.foldlRecOn
    (motive := fun simulator : Simulator => simulator.cells device wireId index = none)
    placed _ rfl ?_
  intro simulator vacant entry _
  rw [addDevice, cells_insert, CellView.replace]
  split
  · exact cell?_ofPipeline entry.2 wireId index
  · exact vacant

/-! ## Calls -/

theorem read_cells (simulator : Simulator) (device : DeviceId) (wireIds : List UInt32) :
    (simulator.read device wireIds).2.cells = simulator.cells := by
  simp only [read]
  split
  · rfl
  · split <;> rfl

theorem cells_of_read {simulator after : Simulator} {device : DeviceId} {wireIds : List UInt32}
    {answer : Except ClientError (List Wire.Entry)}
    (answered : Client.read simulator device wireIds = (answer, after)) :
    after.cells = simulator.cells := by
  have same := simulator.read_cells device wireIds
  rwa [show simulator.read device wireIds = (answer, after) from answered] at same

/-- A read that succeeds shows what the cells of the arrays asked for hold. -/
theorem mem_read {simulator after : Simulator} {device : DeviceId} {wireIds : List UInt32}
    {entries : List Wire.Entry}
    (answered : Client.read simulator device wireIds = (.ok entries, after))
    {entry : Wire.Entry} (member : entry ∈ entries) :
    entry.meterId ∈ wireIds ∧ ∃ index, entry.index = some index ∧ 0 ≤ index.toInt ∧
      entry.config = simulator.cells device entry.meterId index := by
  have read : (simulator.read device wireIds).1 = .ok entries := congrArg Prod.fst answered
  simp only [Simulator.read] at read
  split at read
  · cases read
  · split at read
    · cases read
    · rename_i arrays known
      obtain ⟨_, rfl⟩ := SimulatedDevice.readArrays_eq_ok_iff.mp read
      obtain ⟨wireId, asked, scanned⟩ := List.mem_flatMap.mp member
      obtain ⟨index, unsigned, rfl⟩ := SimulatedDevice.mem_scan scanned
      rw [cells_eq known]
      exact ⟨asked, index, rfl, unsigned, rfl⟩

/-- A write that fails as a whole changes no cell, and any other writes entry by entry. -/
theorem write_cases (simulator : Simulator) (device : DeviceId) (entries : List Wire.Entry) :
    (∃ error, (simulator.write device entries).1 = .error error ∧
      (simulator.write device entries).2.cells = simulator.cells) ∨
    ∃ arrays, simulator.devices.get? device = some arrays ∧
      (simulator.write device entries).1 = .ok (arrays.writeEntries entries).1 ∧
      (simulator.write device entries).2.cells =
        simulator.cells.replace device (arrays.writeEntries entries).2.cell? := by
  simp only [write]
  split
  · exact .inl ⟨_, rfl, rfl⟩
  · split
    · exact .inl ⟨_, rfl, rfl⟩
    · rename_i arrays known
      exact .inr ⟨arrays, known, rfl, cells_insert simulator device _⟩

end Simulator

end MeterSync
