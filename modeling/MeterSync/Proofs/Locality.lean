import MeterSync.Proofs.Layout

/-!
# What a call sees and changes

Whether simulated devices answer a call is told from their layout alone. A write changes no cell but
those that its entries address, and what it leaves in a cell depends on that cell and the entries
for it. A read depends on the cells of the arrays asked for.
-/

set_option autoImplicit false

namespace MeterSync

namespace SimulatedDevice

/-- The cell that an entry addresses in arrays of given sizes, or why it is refused. -/
def aim (sizes : UInt32 → Option UInt64) (entry : Wire.Entry) : Except String (UInt32 × Int64) :=
  match sizes entry.meterId with
  | none => .error s!"unknown meter id {entry.meterId.toNat}"
  | some size =>
    match entry.index with
    | none => .error s!"missing index for meter id {entry.meterId.toNat}"
    | some index =>
      if index.toInt < 0 ∨ (size.toNat : Int) ≤ index.toInt then
        .error s!"index {index.toInt} out of range"
      else .ok (entry.meterId, index)

def statusIn (sizes : UInt32 → Option UInt64) (entry : Wire.Entry) : WriteStatus :=
  match aim sizes entry with
  | .error reason => some reason
  | .ok _ => none

/-- What a cell holds once an entry is written to arrays of given sizes. -/
def land (sizes : UInt32 → Option UInt64) (wireId : UInt32) (index : Int64)
    (held : Option Wire.Config) (entry : Wire.Entry) : Option Wire.Config :=
  match aim sizes entry with
  | .error _ => held
  | .ok key => if wireId = key.1 ∧ index = key.2 then entry.config else held

theorem target_eq (device : SimulatedDevice) (entry : Wire.Entry) :
    device.target entry = aim device.size? entry := by
  unfold target aim size?
  cases device.get? entry.meterId <;> rfl

theorem index_of_aim {sizes : UInt32 → Option UInt64} {entry : Wire.Entry} {key : UInt32 × Int64}
    (aimed : aim sizes entry = .ok key) :
    key.1 = entry.meterId ∧ entry.index = some key.2 ∧ (sizes key.1).isSome := by
  unfold aim at aimed
  split at aimed
  · cases aimed
  · rename_i size known
    split at aimed
    · cases aimed
    · rename_i index given
      split at aimed
      · cases aimed
      · cases aimed
        exact ⟨rfl, given, by simp [known]⟩

theorem writeEntry_local (device : SimulatedDevice) (entry : Wire.Entry) :
    (device.writeEntry entry).1 = statusIn device.size? entry ∧
      (device.writeEntry entry).2.size? = device.size? ∧
      ∀ wireId index, (device.writeEntry entry).2.cell? wireId index =
        land device.size? wireId index (device.cell? wireId index) entry := by
  rw [writeEntry_eq, target_eq]
  unfold statusIn land
  cases aimed : aim device.size? entry with
  | error reason => exact ⟨rfl, rfl, fun _ _ => rfl⟩
  | ok key =>
      obtain ⟨_, _, known⟩ := index_of_aim aimed
      refine ⟨rfl, ?_, ?_⟩
      · funext wireId
        exact device.size?_setCell ..
      · intro wireId index
        exact cell?_setCell known key.2 entry.config wireId index

theorem writeEntries_local (device : SimulatedDevice) (entries : List Wire.Entry) :
    (device.writeEntries entries).1 = entries.map (statusIn device.size?) ∧
      ∀ wireId index, (device.writeEntries entries).2.cell? wireId index =
        entries.foldl (land device.size? wireId index) (device.cell? wireId index) := by
  induction entries generalizing device with
  | nil => exact ⟨rfl, fun _ _ => rfl⟩
  | cons entry entries ih =>
      obtain ⟨status, sizes, cells⟩ := device.writeEntry_local entry
      obtain ⟨statuses, later⟩ := ih (device.writeEntry entry).2
      rw [sizes] at statuses
      constructor
      · rw [writeEntries, statuses, status, List.map_cons]
      · intro wireId index
        rw [writeEntries, later, sizes, cells, List.foldl_cons]

theorem foldl_land_of_elsewhere {sizes : UInt32 → Option UInt64} {entries : List Wire.Entry}
    {wireId : UInt32} {index : Int64}
    (elsewhere : ∀ entry ∈ entries, ¬ (entry.meterId = wireId ∧ entry.index = some index))
    (held : Option Wire.Config) : entries.foldl (land sizes wireId index) held = held := by
  induction entries generalizing held with
  | nil => rfl
  | cons entry entries ih =>
      obtain ⟨here, rest⟩ := List.forall_mem_cons.mp elsewhere
      have untouched : land sizes wireId index held entry = held := by
        unfold land
        cases aimed : aim sizes entry with
        | error reason => rfl
        | ok key =>
            obtain ⟨sameId, given, _⟩ := index_of_aim aimed
            apply if_neg
            rintro ⟨rfl, rfl⟩
            exact here ⟨sameId.symm, given⟩
      rw [List.foldl_cons, untouched]
      exact ih rest held

/-- The entries of arrays of given sizes, one array after the other. -/
def listing (sizes : UInt32 → Option UInt64) (cells : UInt32 → Int64 → Option Wire.Config) :
    List UInt32 → Except ClientError (List Wire.Entry)
  | [] => .ok []
  | wireId :: wireIds =>
    match sizes wireId with
    | none => .error (.rejected s!"unknown meter id {wireId.toNat}")
    | some size => do
      let later ← listing sizes cells wireIds
      return (indices size).map (fun index => ⟨wireId, some index, cells wireId index⟩) ++ later

theorem readArrays_eq (device : SimulatedDevice) (wireIds : List UInt32) :
    device.readArrays wireIds = listing device.size? device.cell? wireIds := by
  induction wireIds with
  | nil => rfl
  | cons wireId wireIds ih =>
      cases known : device.get? wireId with
      | none => simp only [readArrays, listing, size?, known, Option.map_none]
      | some array =>
          have size : device.size? wireId = some array.size := by
            rw [size?, known, Option.map_some]
          simp only [readArrays, listing, known, size, readArray_eq known, ih, scan_eq,
            Option.elim_some]
          rfl

theorem listing_congr {sizes : UInt32 → Option UInt64}
    {first second : UInt32 → Int64 → Option Wire.Config} {wireIds : List UInt32}
    (same : ∀ wireId ∈ wireIds, ∀ index, first wireId index = second wireId index) :
    listing sizes first wireIds = listing sizes second wireIds := by
  induction wireIds with
  | nil => rfl
  | cons wireId wireIds ih =>
      obtain ⟨here, rest⟩ := List.forall_mem_cons.mp same
      simp only [listing, ih rest, here]

end SimulatedDevice

namespace Simulator

/-- The sizes of the arrays of a device, as far as writes to it are answered. -/
def writable (simulator : Simulator) (device : DeviceId) : Option (UInt32 → Option UInt64) :=
  if simulator.failWrites then none else simulator.layout device

def readable (simulator : Simulator) (device : DeviceId) : Option (UInt32 → Option UInt64) :=
  if simulator.failReads then none else simulator.layout device

theorem writable_eq_some_iff {simulator : Simulator} {device : DeviceId}
    {sizes : UInt32 → Option UInt64} :
    simulator.writable device = some sizes ↔
      simulator.failWrites = false ∧
        ∃ arrays, simulator.devices.get? device = some arrays ∧ arrays.size? = sizes := by
  unfold writable layout
  cases simulator.failWrites <;> simp

theorem write_of_writable {simulator : Simulator} {device : DeviceId}
    {sizes : UInt32 → Option UInt64} (answered : simulator.writable device = some sizes)
    (entries : List Wire.Entry) :
    (simulator.write device entries).1 = .ok (entries.map (SimulatedDevice.statusIn sizes)) ∧
      ∀ other wireId index, (simulator.write device entries).2.cells other wireId index =
        if other = device then
          entries.foldl (SimulatedDevice.land sizes wireId index)
            (simulator.cells other wireId index)
        else simulator.cells other wireId index := by
  obtain ⟨working, arrays, known, rfl⟩ := writable_eq_some_iff.mp answered
  obtain ⟨statuses, cells⟩ := arrays.writeEntries_local entries
  simp only [write, working, known]
  refine ⟨congrArg Except.ok statuses, ?_⟩
  intro other wireId index
  have written := congrFun (congrFun (congrFun
    (cells_insert simulator device (arrays.writeEntries entries).2) other) wireId) index
  refine written.trans ?_
  unfold CellView.replace
  by_cases here : other = device
  · subst here
    rw [if_pos rfl, if_pos rfl, cells, cells_eq known]
  · rw [if_neg here, if_neg here]

theorem write_of_unwritable {simulator : Simulator} {device : DeviceId}
    (refused : simulator.writable device = none) (entries : List Wire.Entry) :
    (simulator.write device entries).1 = .error (.unreachable device) ∧
      (simulator.write device entries).2.cells = simulator.cells := by
  unfold writable layout at refused
  cases failing : simulator.failWrites with
  | true =>
      simp only [write, failing]
      exact ⟨rfl, rfl⟩
  | false =>
      rw [failing] at refused
      have unknown : simulator.devices.get? device = none := Option.map_eq_none_iff.mp refused
      simp only [write, failing, unknown]
      exact ⟨rfl, rfl⟩

theorem read_local (simulator : Simulator) (device : DeviceId) (wireIds : List UInt32) :
    (simulator.read device wireIds).1 =
      match simulator.readable device with
      | none => .error (.unreachable device)
      | some sizes => SimulatedDevice.listing sizes (simulator.cells device) wireIds := by
  cases failing : simulator.failReads with
  | true =>
      simp only [read, readable, failing]
      rfl
  | false =>
      cases known : simulator.devices.get? device with
      | none =>
          simp only [read, readable, layout, failing, known]
          rfl
      | some arrays =>
          simp only [read, readable, layout, failing, known, cells_eq known]
          exact arrays.readArrays_eq wireIds

theorem Alike.writable {before after : Simulator} (alike : Alike before after)
    (device : DeviceId) : after.writable device = before.writable device := by
  rw [Simulator.writable, Simulator.writable, alike.failWrites, alike.layout]

theorem Alike.readable {before after : Simulator} (alike : Alike before after)
    (device : DeviceId) : after.readable device = before.readable device := by
  rw [Simulator.readable, Simulator.readable, alike.failReads, alike.layout]

theorem Alike.symm {before after : Simulator} (alike : Alike before after) :
    Alike after before :=
  ⟨alike.failWrites.symm, alike.failReads.symm, alike.layout.symm⟩

end Simulator

end MeterSync
