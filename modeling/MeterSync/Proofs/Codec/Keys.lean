import MeterSync.Proofs.Codec.Bands

/-!
# Keys and entries

A pipeline names every cell of its arrays in two ways, and each name can be found from the other as
long as the index fits the wire. An entry is a key with the numbers of a state, and decodes exactly
when its key does and none of its numbers is negative.
-/

set_option autoImplicit false

namespace MeterSync

private theorem find?_key_eq_some_iff {Value Key : Type} [DecidableEq Key] {key : Value → Key}
    {values : List Value} (distinct : (values.map key).Nodup) {wanted : Key} {value : Value} :
    values.find? (fun candidate => key candidate = wanted) = some value ↔
      value ∈ values ∧ key value = wanted := by
  induction values with
  | nil => simp
  | cons first rest ih =>
      obtain ⟨fresh, restDistinct⟩ := List.nodup_cons.mp distinct
      by_cases here : key first = wanted
      · simp only [List.find?_cons_of_pos, here, decide_true, Option.some.injEq, List.mem_cons]
        constructor
        · rintro rfl
          exact ⟨.inl rfl, here⟩
        · intro included
          rcases included with ⟨same | later, found⟩
          · exact same.symm
          · exact absurd (List.mem_map.mpr ⟨value, later, found.trans here.symm⟩) fresh
      · rw [List.find?_cons_of_neg (by simpa using here), ih restDistinct, List.mem_cons]
        constructor
        · intro included
          rcases included with ⟨later, found⟩
          exact ⟨.inr later, found⟩
        · intro included
          rcases included with ⟨rfl | later, found⟩
          · exact absurd found here
          · exact ⟨later, found⟩

namespace Pipeline

theorem array?_eq_some_iff {pipeline : Pipeline} {id : MeterId} {array : MeterArray} :
    pipeline.array? id = some array ↔ array ∈ pipeline.arrays ∧ array.id = id :=
  find?_key_eq_some_iff pipeline.ids_distinct

theorem arrayOfWireId?_eq_some_iff {pipeline : Pipeline} {wireId : UInt32} {array : MeterArray} :
    pipeline.arrayOfWireId? wireId = some array ↔
      array ∈ pipeline.arrays ∧ array.wireId = wireId :=
  find?_key_eq_some_iff pipeline.wireIds_distinct

end Pipeline

namespace Codec

/-! ## Keys -/

theorem encodeKey_eq_ok_iff {pipeline : Pipeline} {cell : CellId} {entry : Wire.Entry} :
    encodeKey pipeline cell = .ok entry ↔
      ∃ array ∈ pipeline.arrays, array.id = cell.meter ∧ cell.index ≤ maxWireValue ∧
        ⟨array.wireId, some cell.index.toInt64, none⟩ = entry := by
  rw [encodeKey]
  split
  · rename_i missing
    constructor
    · intro encoded
      cases encoded
    · intro addressed
      rcases addressed with ⟨array, member, named, _⟩
      rw [Pipeline.array?_eq_some_iff.mpr ⟨member, named⟩] at missing
      cases missing
  · rename_i array found
    simp only [except_bind_eq_ok_iff, toWire_eq_ok_iff, pure, Except.pure, Except.ok.injEq]
    constructor
    · intro encoded
      rcases encoded with ⟨_, ⟨fits, rfl⟩, rfl⟩
      obtain ⟨member, named⟩ := Pipeline.array?_eq_some_iff.mp found
      exact ⟨array, member, named, fits, rfl⟩
    · intro addressed
      rcases addressed with ⟨other, member, named, fits, rfl⟩
      rw [Pipeline.array?_eq_some_iff.mpr ⟨member, named⟩] at found
      cases found
      exact ⟨_, ⟨fits, rfl⟩, rfl⟩

theorem decodeKey_eq_ok_iff {pipeline : Pipeline} {entry : Wire.Entry} {cell : CellId} :
    decodeKey pipeline entry = .ok cell ↔
      ∃ array ∈ pipeline.arrays, array.wireId = entry.meterId ∧
        ∃ index, entry.index = some index ∧ 0 ≤ index.toInt ∧
          ⟨array.id, index.toUInt64⟩ = cell := by
  rw [decodeKey]
  split
  · rename_i missing
    constructor
    · intro decoded
      cases decoded
    · intro addressed
      rcases addressed with ⟨array, member, numbered, _⟩
      rw [Pipeline.arrayOfWireId?_eq_some_iff.mpr ⟨member, numbered⟩] at missing
      cases missing
  · rename_i array found
    obtain ⟨member, numbered⟩ := Pipeline.arrayOfWireId?_eq_some_iff.mp found
    have unique : ∀ other ∈ pipeline.arrays, other.wireId = entry.meterId → other = array := by
      intro other otherMember otherNumbered
      rw [Pipeline.arrayOfWireId?_eq_some_iff.mpr ⟨otherMember, otherNumbered⟩] at found
      exact Option.some.inj found
    split
    · rename_i missing
      simp [missing]
    · rename_i index given
      simp only [except_bind_eq_ok_iff, fromWire_eq_ok_iff, pure, Except.pure, Except.ok.injEq]
      constructor
      · intro decoded
        rcases decoded with ⟨_, ⟨unsigned, rfl⟩, rfl⟩
        exact ⟨array, member, numbered, index, given, unsigned, rfl⟩
      · intro addressed
        rcases addressed with ⟨other, otherMember, otherNumbered, _, same, unsigned, rfl⟩
        cases given.symm.trans same
        rw [unique other otherMember otherNumbered]
        exact ⟨_, ⟨unsigned, rfl⟩, rfl⟩

@[simp] theorem decodeKey_config (pipeline : Pipeline) (entry : Wire.Entry)
    (config : Option Wire.Config) :
    decodeKey pipeline { entry with config } = decodeKey pipeline entry := rfl

theorem encodeKey_of_decodeKey {pipeline : Pipeline} {entry : Wire.Entry} {cell : CellId}
    (decoded : decodeKey pipeline entry = .ok cell) :
    encodeKey pipeline cell = .ok { entry with config := none } := by
  obtain ⟨array, member, numbered, index, given, unsigned, rfl⟩ := decodeKey_eq_ok_iff.mp decoded
  refine encodeKey_eq_ok_iff.mpr ⟨array, member, rfl, toUInt64_le_maxWireValue unsigned, ?_⟩
  rw [numbered, given, Int64.toInt64_toUInt64]

theorem decodeKey_of_encodeKey {pipeline : Pipeline} {cell : CellId} {entry : Wire.Entry}
    (encoded : encodeKey pipeline cell = .ok entry) : decodeKey pipeline entry = .ok cell := by
  obtain ⟨array, member, named, fits, rfl⟩ := encodeKey_eq_ok_iff.mp encoded
  refine decodeKey_eq_ok_iff.mpr ⟨array, member, rfl, _, rfl, ?_, ?_⟩
  · rw [toInt_toInt64 fits]
    exact Int.natCast_nonneg _
  · rw [named, UInt64.toUInt64_toInt64]

theorem encodeKey_config {pipeline : Pipeline} {cell : CellId} {entry : Wire.Entry}
    (encoded : encodeKey pipeline cell = .ok entry) : entry.config = none := by
  obtain ⟨array, _, _, _, rfl⟩ := encodeKey_eq_ok_iff.mp encoded
  rfl

theorem decodeKey_congr {pipeline : Pipeline} {first second : Wire.Entry}
    (sameId : first.meterId = second.meterId) (sameIndex : first.index = second.index) :
    decodeKey pipeline first = decodeKey pipeline second := by
  rw [decodeKey, decodeKey, sameId, sameIndex]

/-- No two keys address one cell. -/
theorem decodeKey_injective {pipeline : Pipeline} {cell : CellId} {first second : Wire.Entry}
    (firstDecoded : decodeKey pipeline first = .ok cell)
    (secondDecoded : decodeKey pipeline second = .ok cell) :
    first.meterId = second.meterId ∧ first.index = second.index := by
  have same := (encodeKey_of_decodeKey firstDecoded).symm.trans
    (encodeKey_of_decodeKey secondDecoded)
  simpa using same

/-! ## Entries -/

theorem encode_eq_ok_iff {pipeline : Pipeline} {config : CellConfig}
    (regular : config.state.Regular) {entry : Wire.Entry} :
    encode pipeline config = .ok entry ↔
      ∃ key, encodeKey pipeline config.cell = .ok key ∧
        { key with config := config.state.toWire } = entry := by
  rw [encode, except_bind_eq_ok_iff, bandsToWire_bands regular]
  simp [bind, Except.bind, pure, Except.pure]

theorem encode_reset (pipeline : Pipeline) (cell : CellId) :
    encode pipeline (.reset cell) = encodeKey pipeline cell := by
  cases key : encodeKey pipeline cell with
  | error error => simp [encode, key, bind, Except.bind]
  | ok entry =>
      refine (encode_eq_ok_iff .reset).mpr ⟨entry, key, ?_⟩
      rw [CellConfig.reset_state, CellState.toWire, ← encodeKey_config key]

theorem decode_eq_ok_iff {pipeline : Pipeline} {entry : Wire.Entry} {config : CellConfig} :
    decode pipeline entry = .ok config ↔
      ∃ cell, decodeKey pipeline entry = .ok cell ∧
        (∀ numbers ∈ entry.config, numbers.Unsigned) ∧
        ⟨cell, .ofWire entry.config⟩ = config := by
  simp only [decode, except_bind_eq_ok_iff, configOfWire_eq_ok_iff]

theorem decodeKey_of_decode {pipeline : Pipeline} {entry : Wire.Entry} {config : CellConfig}
    (decoded : decode pipeline entry = .ok config) :
    decodeKey pipeline entry = .ok config.cell := by
  obtain ⟨cell, key, _, rfl⟩ := decode_eq_ok_iff.mp decoded
  exact key

theorem decode_regular {pipeline : Pipeline} {entry : Wire.Entry} {config : CellConfig}
    (decoded : decode pipeline entry = .ok config) : config.state.Regular := by
  obtain ⟨cell, _, unsigned, rfl⟩ := decode_eq_ok_iff.mp decoded
  exact CellState.regular_ofWire unsigned

theorem decodeKey_of_encode {pipeline : Pipeline} {config : CellConfig} {entry : Wire.Entry}
    (regular : config.state.Regular) (encoded : encode pipeline config = .ok entry) :
    decodeKey pipeline entry = .ok config.cell := by
  obtain ⟨key, keyEncoded, rfl⟩ := (encode_eq_ok_iff regular).mp encoded
  rw [decodeKey_config]
  exact decodeKey_of_encodeKey keyEncoded

theorem decode_of_encode {pipeline : Pipeline} {config : CellConfig} {entry : Wire.Entry}
    (regular : config.state.Regular) (encoded : encode pipeline config = .ok entry) :
    decode pipeline entry = .ok config := by
  have key := decodeKey_of_encode regular encoded
  obtain ⟨_, _, rfl⟩ := (encode_eq_ok_iff regular).mp encoded
  refine decode_eq_ok_iff.mpr ⟨config.cell, key, regular.toWire_unsigned, ?_⟩
  rw [regular.ofWire_toWire]

/-- What was decoded is encoded under the same key, with its bands in order. -/
theorem encode_of_decode {pipeline : Pipeline} {entry : Wire.Entry} {config : CellConfig}
    (decoded : decode pipeline entry = .ok config) :
    encode pipeline config =
      .ok { entry with config := (CellState.ofWire entry.config).toWire } := by
  have regular := decode_regular decoded
  obtain ⟨cell, key, _, rfl⟩ := decode_eq_ok_iff.mp decoded
  exact (encode_eq_ok_iff regular).mpr ⟨_, encodeKey_of_decodeKey key, rfl⟩

end Codec

end MeterSync
