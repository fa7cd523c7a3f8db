import MeterSync.Proofs.Coordinator.Run

/-!
# Which meters the wire can carry

Rates and bursts are held against the wire when a meter resolves, but an index is held only against
the size of its array. The wire counts cells with a sign, so in an array of more than 2 ^ 63 cells
there are meters that resolve and cannot be encoded.
-/

set_option autoImplicit false

namespace MeterSync

/-- The entry of a configuration carries it: it can be made, and read back it is the same. -/
def Codec.Carries (pipeline : Pipeline) (config : CellConfig) : Prop :=
  ∃ entry, Codec.encode pipeline config = .ok entry ∧ Codec.decode pipeline entry = .ok config

namespace Pipeline

variable {pipeline : Pipeline} {meter : Meter} {config : CellConfig}

theorem array_of_resolve (resolved : pipeline.resolve meter = .ok config) :
    ∃ array ∈ pipeline.arrays, array.id = meter.cell.meter ∧ meter.cell.index < array.size := by
  obtain ⟨array, _, _, found, inside, _⟩ := resolve_eq_ok_iff.mp resolved
  obtain ⟨member, named⟩ := array?_eq_some_iff.mp found
  exact ⟨array, member, named, inside⟩

theorem carries_of_resolve (resolved : pipeline.resolve meter = .ok config)
    (fits : meter.cell.index ≤ Codec.maxWireValue) : Codec.Carries pipeline config := by
  obtain ⟨array, member, named, _⟩ := array_of_resolve resolved
  obtain ⟨_, _, rfl, regular⟩ := resolve_modify resolved
  have key := Codec.encodeKey_eq_ok_iff.mpr ⟨array, member, named, fits, rfl⟩
  have encoded := (Codec.encode_eq_ok_iff regular).mpr ⟨_, key, rfl⟩
  exact ⟨_, encoded, Codec.decode_of_encode regular encoded⟩

theorem encode_of_resolve (resolved : pipeline.resolve meter = .ok config)
    (large : Codec.maxWireValue < meter.cell.index) :
    Codec.encode pipeline config = .error (.outOfRange .index meter.cell.index.toNat) := by
  obtain ⟨array, member, named, _⟩ := array_of_resolve resolved
  have found := array?_eq_some_iff.mpr ⟨member, named⟩
  obtain ⟨_, _, rfl, _⟩ := resolve_modify resolved
  simp only [Codec.encode, Codec.encodeKey, found, Codec.toWire, UInt64.not_le.mpr large, if_false]
  rfl

theorem carries_iff_of_resolve (resolved : pipeline.resolve meter = .ok config) :
    Codec.Carries pipeline config ↔ meter.cell.index ≤ Codec.maxWireValue := by
  constructor
  · intro carried
    rcases carried with ⟨entry, encoded, _⟩
    apply UInt64.not_lt.mp
    intro large
    rw [encode_of_resolve resolved large] at encoded
    cases encoded
  · exact carries_of_resolve resolved

/-- Two bands that differ, so that their order is seen. -/
def plainMeter (device : DeviceId) (cell : CellId) : Meter where
  device
  cell
  bands := [⟨.uncolored, 100, some 10⟩, ⟨.uncolored, 1000, some 50⟩]
  unit := none
  state := .pendingAdd

theorem resolve_plainMeter {array : MeterArray} (member : array ∈ pipeline.arrays)
    {index : UInt64} (inside : index < array.size) (device : DeviceId) :
    pipeline.resolve (plainMeter device ⟨array.id, index⟩) =
      .ok (.modify ⟨array.id, index⟩ ⟨100, 10⟩ ⟨1000, 50⟩) := by
  have found := array?_eq_some_iff.mpr ⟨member, rfl⟩
  have committed : Band.Fits ⟨100, 10⟩ := ⟨by decide, by decide⟩
  have peak : Band.Fits ⟨1000, 50⟩ := ⟨by decide, by decide⟩
  exact resolve_eq_ok_iff.mpr
    ⟨array, _, _, found, inside, by simp [plainMeter], rfl, committed, peak, rfl⟩

/-- The pipeline has no array with more cells than the wire can count. -/
def Addressable (pipeline : Pipeline) : Prop :=
  ∀ array ∈ pipeline.arrays, array.size ≤ Codec.maxWireValue + 1

theorem Addressable.fits (addressable : pipeline.Addressable)
    (resolved : pipeline.resolve meter = .ok config) :
    meter.cell.index ≤ Codec.maxWireValue := by
  obtain ⟨array, member, _, inside⟩ := array_of_resolve resolved
  have below : meter.cell.index.toNat < (Codec.maxWireValue + 1).toNat :=
    UInt64.lt_iff_toNat_lt.mp (UInt64.lt_of_lt_of_le inside (addressable array member))
  have next : (Codec.maxWireValue + 1).toNat = Codec.maxWireValue.toNat + 1 := rfl
  exact UInt64.le_iff_toNat_le.mpr (by omega)

theorem addressable_of_carries (device : DeviceId)
    (carried : ∀ meter config, pipeline.resolve meter = .ok config →
      Codec.Carries pipeline config) : pipeline.Addressable := by
  intro array member
  apply UInt64.not_lt.mp
  intro inside
  have resolved := resolve_plainMeter member inside device
  have fits : Codec.maxWireValue + 1 ≤ Codec.maxWireValue :=
    (carries_iff_of_resolve resolved).mp (carried _ _ resolved)
  exact absurd fits (by decide)

/-! ## Operations -/

theorem resolve_of_keeps {operation : Operation}
    (requested : pipeline.requested operation = .ok config) (keeps : operation.kind ≠ .remove) :
    pipeline.resolve operation.meter = .ok config := by
  rw [Pipeline.requested] at requested
  cases kind : operation.kind with
  | remove => exact absurd kind keeps
  | add => simpa only [kind] using requested
  | modify => simpa only [kind] using requested

variable {Connection : Type} [Client Connection]

theorem submit_of_carries (carried : Codec.Carries pipeline config) (device : DeviceId)
    (connection : Connection) :
    ∃ entry, Client.submit pipeline ⟨device, [config]⟩ connection =
      (WriteBatch.outcome ⟨device, [config]⟩ (Client.write connection device [entry]).1,
        (Client.write connection device [entry]).2) := by
  obtain ⟨entry, encoded, _⟩ := carried
  have all : Codec.encodeAll pipeline [config] = .ok [entry] :=
    Codec.encodeAll_eq_ok_iff.mpr (by rw [List.map_singleton, List.map_singleton, encoded])
  exact ⟨entry, Client.submit_of_encodeAll all connection⟩

theorem submit_of_encode_error {error : CodecError}
    (failed : Codec.encode pipeline config = .error error) (device : DeviceId)
    (connection : Connection) :
    Client.submit pipeline ⟨device, [config]⟩ connection =
      (WriteBatch.allFailed ⟨device, [config]⟩ error.message, connection) := by
  have all : Codec.encodeAll pipeline [config] = .error error := by
    rw [Codec.encodeAll, failed]
    rfl
  simp only [Client.submit, all]

end Pipeline

/-- A meter that resolves is carried by the wire, there and back, exactly if its index fits; no
other number of it can be too large. So a pipeline carries every meter that it resolves exactly if
none of its arrays has more than 2 ^ 63 cells. What an operation adds or modifies reaches the client
if the index fits, and otherwise fails in the encoder without a call. -/
theorem Pipeline.resolved_meters_carried (pipeline : Pipeline) :
    (∀ meter config, pipeline.resolve meter = .ok config →
      (Codec.Carries pipeline config ↔ meter.cell.index ≤ Codec.maxWireValue) ∧
      (Codec.maxWireValue < meter.cell.index →
        Codec.encode pipeline config =
          .error (.outOfRange .index meter.cell.index.toNat))) ∧
    ((∀ meter config, pipeline.resolve meter = .ok config → Codec.Carries pipeline config) ↔
      pipeline.Addressable) ∧
    ∀ {Connection : Type} [Client Connection] (connection : Connection) (operation : Operation)
      (config : CellConfig), operation.kind ≠ .remove →
      pipeline.requested operation = .ok config →
        let device := operation.meter.device
        let submitted := Client.submit pipeline ⟨device, [config]⟩ connection
        (operation.meter.cell.index ≤ Codec.maxWireValue →
          ∃ entry, submitted =
            (WriteBatch.outcome ⟨device, [config]⟩ (Client.write connection device [entry]).1,
              (Client.write connection device [entry]).2)) ∧
        (Codec.maxWireValue < operation.meter.cell.index →
          ∃ reason, submitted = (WriteBatch.allFailed ⟨device, [config]⟩ reason, connection)) := by
  refine ⟨?_, ⟨?_, ?_⟩, ?_⟩
  · intro meter config resolved
    exact ⟨carries_iff_of_resolve resolved, encode_of_resolve resolved⟩
  · exact addressable_of_carries Sample.device
  · intro addressable meter config resolved
    exact carries_of_resolve resolved (addressable.fits resolved)
  · intro _ _ connection operation config keeps requested device submitted
    have resolved := resolve_of_keeps requested keeps
    constructor
    · intro fits
      exact submit_of_carries (carries_of_resolve resolved fits) device connection
    · intro large
      exact ⟨_, submit_of_encode_error (encode_of_resolve resolved large) device connection⟩

/-! ## Beyond the wire -/

namespace Coordinator

/-- An array with cells that the wire cannot count. -/
def vast : Pipeline :=
  ⟨[⟨Sample.meter, 5, 9223372036854775809, .bytes⟩], by decide, by decide, by decide⟩

def vastCell : CellId := ⟨Sample.meter, 9223372036854775808⟩

def vastAddition : Operation :=
  { Sample.addition with meter := { Sample.addition.meter with cell := vastCell } }

def vastStart : Coordinator ShadowTable Simulator :=
  .new 1 (Std.TreeMap.insert ∅ Sample.device vast) ∅ (.ofDevices [(Sample.device, vast)])

/-- The last meter of the array resolves and is learned, and then fails in the encoder: the
operation ends without a call, but the intent stays. -/
theorem vast_meter_learned_not_carried :
    vast.resolve vastAddition.meter = .ok (.modify vastCell ⟨100, 10⟩ ⟨1000, 50⟩) ∧
      Codec.encode vast (.modify vastCell ⟨100, 10⟩ ⟨1000, 50⟩) =
        .error (.outOfRange .index 9223372036854775808) ∧
      (vastStart.process vastAddition).1 =
        .error (.writeFailed Sample.device "index value 9223372036854775808 out of range") ∧
      ((vastStart.process vastAddition).2.intents.lookup vastAddition.meter.handle).isSome ∧
      (vastStart.process vastAddition).2.connection.writeCalls = 0 ∧
      (vastStart.process vastAddition).2.stats = ⟨1, 1, 0, 1, 0, 0, 0, 0⟩ := by
  decide +kernel

/-- The same bands are carried for the one cell of a pipeline and not for the last of a vast one. -/
theorem sample_meter_carried :
    Sample.pipeline.Addressable ∧
      Codec.Carries Sample.pipeline (.modify Sample.handle.cell ⟨100, 10⟩ ⟨1000, 50⟩) ∧
      (∃ entry, Client.submit Sample.pipeline
          ⟨Sample.device, [.modify Sample.handle.cell ⟨100, 10⟩ ⟨1000, 50⟩]⟩ vastStart.connection =
        (WriteBatch.outcome ⟨Sample.device, [.modify Sample.handle.cell ⟨100, 10⟩ ⟨1000, 50⟩]⟩
            (Client.write vastStart.connection Sample.device [entry]).1,
          (Client.write vastStart.connection Sample.device [entry]).2)) ∧
      ¬ vast.Addressable ∧
      ¬ Codec.Carries vast (.modify vastCell ⟨100, 10⟩ ⟨1000, 50⟩) ∧
      Codec.encode vast (.modify vastCell ⟨100, 10⟩ ⟨1000, 50⟩) =
        .error (.outOfRange .index 9223372036854775808) ∧
      ∃ reason, Client.submit vast ⟨Sample.device, [.modify vastCell ⟨100, 10⟩ ⟨1000, 50⟩]⟩
          vastStart.connection =
        (WriteBatch.allFailed ⟨Sample.device, [.modify vastCell ⟨100, 10⟩ ⟨1000, 50⟩]⟩ reason,
          vastStart.connection) := by
  have addressable : Sample.pipeline.Addressable := by
    unfold Pipeline.Addressable
    decide
  have resolved : Sample.pipeline.resolve Sample.addition.meter =
      .ok (.modify Sample.handle.cell ⟨100, 10⟩ ⟨1000, 50⟩) := by decide +kernel
  have vastResolved : vast.resolve vastAddition.meter =
      .ok (.modify vastCell ⟨100, 10⟩ ⟨1000, 50⟩) := by decide +kernel
  obtain ⟨_, all, submits⟩ := Pipeline.resolved_meters_carried Sample.pipeline
  obtain ⟨vastEach, vastAll, vastSubmits⟩ := Pipeline.resolved_meters_carried vast
  obtain ⟨carries, refused⟩ := vastEach _ _ vastResolved
  have lost : ¬ Codec.Carries vast (.modify vastCell ⟨100, 10⟩ ⟨1000, 50⟩) := by
    intro carried
    exact absurd (carries.mp carried) (by decide)
  refine ⟨addressable, all.mpr addressable _ _ resolved, ?_, ?_, lost, refused (by decide), ?_⟩
  · exact (submits vastStart.connection Sample.addition _ (by decide) resolved).1 (by decide)
  · intro vastAddressable
    exact lost (vastAll.mpr vastAddressable _ _ vastResolved)
  · exact (vastSubmits vastStart.connection vastAddition _ (by decide) vastResolved).2 (by decide)

end Coordinator

end MeterSync
