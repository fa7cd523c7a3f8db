import MeterSync.Proofs.Coordinator.Run

/-!
# What calls leave in place

A call to simulated devices adds no device and no array, changes no size, and does not change
whether later calls fail. What a read answers is told from these and from what the cells hold, so a
read that succeeded succeeds again, over the same cells in the same order.
-/

set_option autoImplicit false

namespace MeterSync

namespace SimulatedDevice

/-- The indices that a read of an array of this size goes through. -/
def indices (size : UInt64) : List Int64 :=
  (List.range size.toInt64.toInt.toNat).map Int64.ofNat

theorem scan_eq (device : SimulatedDevice) (wireId : UInt32) :
    device.scan wireId =
      ((device.size? wireId).elim [] indices).map (device.entryAt wireId) := by
  rw [scan, size?]
  cases device.get? wireId with
  | none => rfl
  | some array =>
      simp only [Option.map_some, Option.elim, indices, cellCount, List.map_map]
      rfl

theorem size?_writeEntries (device : SimulatedDevice) (entries : List Wire.Entry) :
    (device.writeEntries entries).2.size? = device.size? := by
  induction entries generalizing device with
  | nil => rfl
  | cons entry entries ih =>
      rw [writeEntries]
      obtain ⟨reason, refused⟩ | ⟨index, _, _, written⟩ := device.writeEntry_cases entry
      · rw [refused]
        exact ih device
      · rw [written]
        exact (ih _).trans (funext fun wireId => device.size?_setCell ..)

end SimulatedDevice

namespace Simulator

/-- The sizes of the arrays of a device, if the device is known. -/
def layout (simulator : Simulator) (device : DeviceId) : Option (UInt32 → Option UInt64) :=
  (simulator.devices.get? device).map (·.size?)

/-- The cells that a read of some arrays goes through, in order. -/
def addresses (layout : UInt32 → Option UInt64) (wireIds : List UInt32) :
    List (UInt32 × Int64) :=
  wireIds.flatMap fun wireId => ((layout wireId).elim [] SimulatedDevice.indices).map (wireId, ·)

theorem flatMap_scan {simulator : Simulator} {device : DeviceId} {arrays : SimulatedDevice}
    (known : simulator.devices.get? device = some arrays) (wireIds : List UInt32) :
    wireIds.flatMap arrays.scan =
      (addresses arrays.size? wireIds).map fun address =>
        ⟨address.1, some address.2, simulator.cells device address.1 address.2⟩ := by
  rw [addresses, List.map_flatMap, cells_eq known]
  congr 1
  funext wireId
  rw [SimulatedDevice.scan_eq, List.map_map]
  rfl

theorem read_eq_ok_iff {simulator : Simulator} {device : DeviceId} {wireIds : List UInt32}
    {entries : List Wire.Entry} :
    (simulator.read device wireIds).1 = .ok entries ↔
      simulator.failReads = false ∧ ∃ layout, simulator.layout device = some layout ∧
        (∀ wireId ∈ wireIds, (layout wireId).isSome) ∧
        (addresses layout wireIds).map (fun address =>
          ⟨address.1, some address.2, simulator.cells device address.1 address.2⟩) = entries := by
  rw [read, layout]
  cases failing : simulator.failReads with
  | true => simp
  | false =>
      cases known : simulator.devices.get? device with
      | none => simp
      | some arrays =>
          simp only [Bool.false_eq_true, if_false, SimulatedDevice.readArrays_eq_ok_iff,
            flatMap_scan known, Option.map_some, Option.some.injEq, exists_eq_left', true_and]

theorem read_connection (simulator : Simulator) (device : DeviceId) (wireIds : List UInt32) :
    (simulator.read device wireIds).2 =
      { simulator with readCalls := simulator.readCalls + 1 } := by
  rw [read]
  dsimp only
  split
  · rfl
  · split <;> rfl

/-- Nothing but the contents of cells and the counts of calls differs. -/
structure Alike (before after : Simulator) : Prop where
  failWrites : after.failWrites = before.failWrites
  failReads : after.failReads = before.failReads
  layout : after.layout = before.layout

theorem Alike.refl (simulator : Simulator) : Alike simulator simulator :=
  ⟨rfl, rfl, rfl⟩

theorem Alike.trans {before between after : Simulator} (first : Alike before between)
    (second : Alike between after) : Alike before after :=
  ⟨second.failWrites.trans first.failWrites, second.failReads.trans first.failReads,
    second.layout.trans first.layout⟩

theorem layout_insert {simulator : Simulator} {device : DeviceId} {arrays : SimulatedDevice}
    (known : simulator.devices.get? device = some arrays) {changed : SimulatedDevice}
    (same : changed.size? = arrays.size?) (other : DeviceId) :
    ((simulator.devices.insert device changed).get? other).map (·.size?) =
      simulator.layout other := by
  rw [get?_insert, layout]
  by_cases here : device = other
  · rw [if_pos here, ← here, known, Option.map_some, Option.map_some, same]
  · rw [if_neg here]

theorem read_alike (simulator : Simulator) (device : DeviceId) (wireIds : List UInt32) :
    Alike simulator (simulator.read device wireIds).2 := by
  rw [read_connection]
  exact ⟨rfl, rfl, rfl⟩

theorem write_alike (simulator : Simulator) (device : DeviceId) (entries : List Wire.Entry) :
    Alike simulator (simulator.write device entries).2 := by
  rw [write]
  dsimp only
  split
  · exact ⟨rfl, rfl, rfl⟩
  · split
    · exact ⟨rfl, rfl, rfl⟩
    · rename_i arrays known
      exact ⟨rfl, rfl, funext (layout_insert known (arrays.size?_writeEntries entries))⟩

theorem inject_alike (simulator : Simulator) (device : DeviceId) (wireId : UInt32) (index : Int64)
    (config : Option Wire.Config) :
    Alike simulator (simulator.inject device wireId index config) := by
  unfold inject
  cases known : simulator.devices.get? device with
  | none => exact .refl simulator
  | some arrays =>
      refine ⟨rfl, rfl, funext (layout_insert known ?_)⟩
      funext other
      exact arrays.size?_setCell ..

end Simulator

/-- The entry with what its cell holds. -/
def CellView.refresh (cells : CellView) (device : DeviceId) (entry : Wire.Entry) : Wire.Entry :=
  { entry with config := entry.index.bind (cells device entry.meterId) }

/-- As long as nothing but cells changes, a read that succeeded succeeds again and finds every cell
as it then is. -/
theorem Simulator.Alike.read_again {before after : Simulator} (alike : Alike before after)
    {device : DeviceId} {wireIds : List UInt32} {entries : List Wire.Entry}
    (answered : (before.read device wireIds).1 = .ok entries) :
    (after.read device wireIds).1 = .ok (entries.map (after.cells.refresh device)) := by
  obtain ⟨answering, layout, laidOut, known, rfl⟩ := read_eq_ok_iff.mp answered
  refine read_eq_ok_iff.mpr ⟨alike.failReads.trans answering, layout, ?_, known, ?_⟩
  · rw [alike.layout]
    exact laidOut
  · rw [List.map_map]
    rfl

/-! ## Requests -/

theorem Client.submit_alike (pipeline : Pipeline) (batch : WriteBatch) (simulator : Simulator) :
    simulator.Alike (Client.submit pipeline batch simulator).2 := by
  cases encoded : Codec.encodeAll pipeline batch.configs with
  | error error =>
      simp only [Client.submit, encoded]
      exact .refl simulator
  | ok entries =>
      rw [Client.submit_of_encodeAll encoded]
      exact simulator.write_alike batch.device entries

namespace Coordinator

variable {Shadow : Type} [ShadowStore Shadow]

theorem correct_alike (coordinator : Coordinator Shadow Simulator) (pipeline : Pipeline)
    (batch : WriteBatch) :
    coordinator.connection.Alike (coordinator.correct pipeline batch).2.connection := by
  rw [correct]
  split
  · exact .refl coordinator.connection
  · exact Client.submit_alike pipeline batch coordinator.connection

variable {coordinator after : Coordinator Shadow Simulator}

theorem Reconciled.alike {device : DeviceId} {report : Report}
    (ended : Reconciled coordinator device report after) :
    coordinator.connection.Alike after.connection := by
  cases ended with
  | unknown _ => exact .refl coordinator.connection
  | @unread pipeline error connection _ answered =>
      have same : (coordinator.connection.read device pipeline.wireIds).2 = connection :=
        congrArg Prod.snd answered
      rw [← same]
      exact coordinator.connection.read_alike ..
  | @read pipeline entries connection readout seen batch _ answered _ seenEq _ =>
      have same : (coordinator.connection.read device pipeline.wireIds).2 = connection :=
        congrArg Prod.snd answered
      have read : coordinator.connection.Alike seen.connection := by
        rw [seenEq, synced, observed, ← same]
        exact coordinator.connection.read_alike ..
      exact read.trans (seen.correct_alike pipeline batch)

theorem Processed.alike {operation : Operation} {result : Except OperationError Unit}
    (ended : Processed coordinator operation result after) :
    coordinator.connection.Alike after.connection := by
  cases ended with
  | unknown _ => exact .refl coordinator.connection
  | unresolved _ _ => exact .refl coordinator.connection
  | skipped _ _ _ => exact .refl coordinator.connection
  | @refused pipeline config outcome connection _ _ _ _ _ submitted _ _ =>
      have same := congrArg Prod.snd submitted
      rw [← show _ = connection from same]
      exact Client.submit_alike ..
  | @written pipeline config outcome connection _ _ _ submitted _ =>
      have same := congrArg Prod.snd submitted
      rw [← show _ = connection from same]
      exact Client.submit_alike ..

end Coordinator

end MeterSync
