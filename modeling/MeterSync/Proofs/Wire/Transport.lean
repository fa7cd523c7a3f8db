import MeterSync.Proofs.Simulator

/-!
# The wire loses nothing

Every message can be read back from its bytes, so messages that differ have bytes that differ. What
reaches a simulated device, and what comes back from it, is what was sent.
-/

set_option autoImplicit false

namespace MeterSync

namespace Wire

variable {Message : Type} {write : Message → List UInt8} {read : List UInt8 → Option Message}

theorem write_injective (back : ∀ message, read (write message) = some message) :
    Function.Injective write := by
  intro first second same
  have firstBack := back first
  rw [same, back second] at firstBack
  exact (Option.some.inj firstBack).symm

theorem decodeIndex_encodeIndex (index : Int64) : decodeIndex (encodeIndex index) = some index :=
  mergeIndexBytes_encodeIndex outerDepth index

theorem Config.decode_encode (config : Config) : Config.decode config.encode = some config :=
  Config.mergeBytes_encode outerDepth config

theorem Entry.encode_injective : Function.Injective Entry.encode :=
  write_injective Entry.decode_encode

/-- The entries of one array that differ in nothing but what is absent and what is zero. -/
def Entry.blanks (meterId : UInt32) : List Entry :=
  [⟨meterId, none, none⟩, ⟨meterId, some 0, none⟩, ⟨meterId, none, some .zero⟩,
    ⟨meterId, some 0, some .zero⟩]

theorem Entry.blanks_nodup (meterId : UInt32) : (Entry.blanks meterId).Nodup := by
  simp [Entry.blanks]

end Wire

/-- Entries, indices and configurations are read back from their bytes as they were, whichever
numbers they hold and whichever parts of them are absent. So no two of them share their bytes, and
neither do the entries that differ only in what is absent and what is zero. Going over the wire
therefore never fails and changes nothing: a device is written and read as if there were no wire. -/
theorem Wire.messages_survive :
    (∀ entry : Entry, Entry.decode entry.encode = some entry) ∧
    (∀ index : Int64, decodeIndex (encodeIndex index) = some index) ∧
    (∀ config : Config, Config.decode config.encode = some config) ∧
    (Function.Injective Entry.encode ∧ Function.Injective encodeIndex ∧
      Function.Injective Config.encode) ∧
    (∀ meterId : UInt32, ((Entry.blanks meterId).map Entry.encode).Nodup) ∧
    (∀ entry : Entry, entry.overWire = some entry) ∧
    (∀ (device : SimulatedDevice) (entry : Entry), device.writeEntry entry =
      match device.target entry with
      | .error reason => (some reason, device)
      | .ok key => (none, device.setCell key.1 key.2 entry.config)) ∧
    ∀ (wireId : UInt32) (array : SimulatedArray), SimulatedDevice.readArray wireId array =
      some ((List.range (SimulatedDevice.cellCount array)).map fun index =>
        ⟨wireId, some (Int64.ofNat index), array.cells.get? (Int64.ofNat index)⟩) := by
  refine ⟨Entry.decode_encode, decodeIndex_encodeIndex, Config.decode_encode, ?_, ?_,
    Entry.overWire_eq, SimulatedDevice.writeEntry_eq, ?_⟩
  · exact ⟨Entry.encode_injective, write_injective decodeIndex_encodeIndex,
      write_injective Config.decode_encode⟩
  · intro meterId
    exact List.Pairwise.map Entry.encode
      (fun _ _ differ same => differ (Entry.encode_injective same)) (Entry.blanks_nodup meterId)
  · intro wireId array
    simp only [SimulatedDevice.readArray, Entry.overWire_eq]
    exact List.mapM_pure

example : Wire.Entry.encode ⟨0, some 0, some .zero⟩ = [0x12, 0, 0x1a, 0] := by decide

example : Wire.encodeIndex (-1) =
    [0x08, 0xff, 0xff, 0xff, 0xff, 0xff, 0xff, 0xff, 0xff, 0xff, 0x01] := by decide

end MeterSync
