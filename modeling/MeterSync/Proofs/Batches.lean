import MeterSync.Proofs.Readback

/-!
# Batches, entry by entry

A simulated device answers each entry of a batch for itself, so nothing depends on how entries are
put together. An accepted entry sets its cell, whatever becomes of the entries around it, and a
device that does not answer keeps all of its cells.
-/

set_option autoImplicit false

namespace MeterSync

namespace SimulatedDevice

/-- The device has the array of the entry, and the entry has an index that is not negative and, as
an unsigned number, below the size of the array. -/
def accepts (device : SimulatedDevice) (entry : Wire.Entry) : Bool :=
  (device.get? entry.meterId).any fun array =>
    entry.index.any fun index => 0 ≤ index.toInt ∧ index.toUInt64 < array.size

theorem statusIn_isNone (device : SimulatedDevice) (entry : Wire.Entry) :
    (statusIn device.size? entry).isNone = device.accepts entry := by
  rw [accepts]
  cases known : device.get? entry.meterId with
  | none =>
      have unsized : device.size? entry.meterId = none := by rw [size?, known, Option.map_none]
      simp [statusIn, aim, unsized]
  | some array =>
      have sized : device.size? entry.meterId = some array.size := by
        rw [size?, known, Option.map_some]
      cases given : entry.index with
      | none => simp [statusIn, aim, sized, given]
      | some index =>
          have taken := statusIn_eq_none_iff sized index entry.config
          rw [show (⟨entry.meterId, some index, entry.config⟩ : Wire.Entry) = entry by
            rw [← given]] at taken
          rw [Option.any_some, Option.any_some, Bool.eq_iff_iff, Option.isNone_iff_eq_none, taken,
            decide_eq_true_iff]
          refine and_congr_right fun unsigned => ?_
          rw [UInt64.lt_iff_toNat_lt, ← Codec.toNat_toUInt64 unsigned, Int.ofNat_lt]

end SimulatedDevice

namespace Simulator

/-- Writes batches to a device, one after the other. -/
def writeAll (simulator : Simulator) (device : DeviceId) :
    List (List Wire.Entry) → List (Except ClientError (List WriteStatus)) × Simulator
  | [] => ([], simulator)
  | batch :: batches =>
    let first := simulator.write device batch
    let later := first.2.writeAll device batches
    (first.1 :: later.1, later.2)

theorem writeAll_of_writable {simulator : Simulator} {device : DeviceId}
    {sizes : UInt32 → Option UInt64} (answers : simulator.writable device = some sizes)
    (batches : List (List Wire.Entry)) :
    (simulator.writeAll device batches).1 =
        batches.map (fun batch => .ok (batch.map (SimulatedDevice.statusIn sizes))) ∧
      ∀ other wireId index, (simulator.writeAll device batches).2.cells other wireId index =
        if other = device then
          batches.flatten.foldl (SimulatedDevice.land sizes wireId index)
            (simulator.cells other wireId index)
        else simulator.cells other wireId index := by
  induction batches generalizing simulator with
  | nil => exact ⟨rfl, fun _ _ _ => (ite_self _).symm⟩
  | cons batch batches ih =>
      obtain ⟨statuses, cells⟩ := write_of_writable answers batch
      have answersStill : (simulator.write device batch).2.writable device = some sizes := by
        rw [(simulator.write_alike device batch).writable, answers]
      obtain ⟨laterStatuses, laterCells⟩ := ih answersStill
      refine ⟨?_, ?_⟩
      · rw [writeAll, statuses, laterStatuses, List.map_cons]
      · intro other wireId index
        rw [writeAll, laterCells, cells, List.flatten_cons, List.foldl_append]
        by_cases here : other = device
        · rw [if_pos here, if_pos here, if_pos here]
        · rw [if_neg here, if_neg here, if_neg here]

/-- A device that is known and answers writes has a status for each entry, in order. It is good
exactly for the entries that the device accepts, and each cell then holds what the last of them for
it says, or else what it held. In whatever batches the entries are written, the statuses and the
cells are the same. If writes fail, or the device is not known, no cell changes. -/
theorem batches_written_by_entry (simulator : Simulator) (device : DeviceId)
    (entries : List Wire.Entry) :
    let written := simulator.write device entries
    (∀ arrays, simulator.failWrites = false → simulator.devices.get? device = some arrays →
      ∃ statuses, written.1 = .ok statuses ∧
        statuses.map (·.isNone) = entries.map arrays.accepts ∧
        (∀ other wireId index, written.2.cells other wireId index =
          if other = device then
            Wire.Entry.heldAfter (entries.filter arrays.accepts) wireId index
              (simulator.cells other wireId index)
          else simulator.cells other wireId index) ∧
        ∀ batches : List (List Wire.Entry), batches.flatten = entries →
          ∃ answers : List (List WriteStatus),
            (simulator.writeAll device batches).1 = answers.map .ok ∧
            answers.map (·.length) = batches.map (·.length) ∧
            answers.flatten = statuses ∧
            (simulator.writeAll device batches).2.cells = written.2.cells) ∧
      (simulator.failWrites = true ∨ simulator.devices.get? device = none →
        written.2.cells = simulator.cells) := by
  intro written
  refine ⟨?_, ?_⟩
  · intro arrays working known
    have answers : simulator.writable device = some arrays.size? :=
      writable_eq_some_iff.mpr ⟨working, arrays, known, rfl⟩
    obtain ⟨statuses, cells⟩ := write_of_writable answers entries
    have accepted : (fun entry => (SimulatedDevice.statusIn arrays.size? entry).isNone) =
        arrays.accepts := funext arrays.statusIn_isNone
    refine ⟨_, statuses, ?_, ?_, ?_⟩
    · rw [List.map_map, ← accepted]
      rfl
    · intro other wireId index
      rw [← accepted, ← SimulatedDevice.foldl_land_eq]
      exact cells other wireId index
    · rintro batches rfl
      obtain ⟨splitStatuses, splitCells⟩ := writeAll_of_writable answers batches
      refine ⟨batches.map (·.map (SimulatedDevice.statusIn arrays.size?)), ?_, ?_, ?_, ?_⟩
      · rw [splitStatuses, List.map_map]
        rfl
      · rw [List.map_map]
        exact List.map_congr_left fun batch _ => List.length_map _
      · exact List.map_flatten.symm
      · funext other wireId index
        exact (splitCells other wireId index).trans (cells other wireId index).symm
  · intro unanswered
    refine (write_of_unwritable ?_ entries).2
    rcases unanswered with failing | unknown
    · rw [writable, if_pos failing]
    · rw [writable, layout, unknown]
      exact ite_self none

/-- The first and the last entry are for one cell. Each one between them but the sixth is refused:
it has no index, its array is not known, or its index is negative or just beyond the array. -/
def Sample.mixed : List Wire.Entry :=
  [⟨5, some 0, some Sample.numbers⟩, ⟨5, none, some Sample.numbers⟩,
    ⟨7, some 0, some Sample.numbers⟩, ⟨6, some (-1), some Sample.numbers⟩,
    ⟨6, some 2, some Sample.numbers⟩, ⟨6, some 1, some Sample.numbers⟩, ⟨5, some 0, none⟩]

/-- Refused entries leave their neighbours alone, also where the batches are put together
differently and one of them is empty. -/
theorem mixed_written_by_entry :
    let simulator := Simulator.empty.addDevice Sample.device Sample.both
    let written := simulator.write Sample.device Sample.mixed
    let failing := { simulator with failWrites := true }
    let split := [Sample.mixed.take 4, [], Sample.mixed.drop 4]
    (simulator.failWrites = false ∧ simulator.devices.get? Sample.device =
        some (SimulatedDevice.ofPipeline Sample.both) ∧ split.flatten = Sample.mixed) ∧
      written.1.map (·.map (·.isNone)) = .ok [true, false, false, false, false, true, true] ∧
      (written.2.cells Sample.device 5 0, written.2.cells Sample.device 6 1) =
        (none, some Sample.numbers) ∧
      (simulator.writeAll Sample.device split).2.cells = written.2.cells ∧
      (failing.write Sample.device Sample.mixed).2.cells = failing.cells := by
  intro simulator written failing split
  have known : simulator.devices.get? Sample.device =
      some (SimulatedDevice.ofPipeline Sample.both) := by
    simp [simulator, addDevice]
  have parts : split.flatten = Sample.mixed := by decide
  obtain ⟨statuses, answered, good, cells, splits⟩ :=
    (batches_written_by_entry simulator Sample.device Sample.mixed).1 _ rfl known
  obtain ⟨_, _, _, _, sameCells⟩ := splits split parts
  refine ⟨⟨rfl, known, parts⟩, ?_, ?_, sameCells, ?_⟩
  · rw [answered, Except.map, good]
    decide +kernel
  · rw [cells, cells]
    decide +kernel
  · exact (batches_written_by_entry failing Sample.device Sample.mixed).2 (.inl rfl)

end Simulator

end MeterSync
