import Mathlib.Data.Sym.Sym2
import MeterSync.Client.Readout
import MeterSync.Proofs.Codec.RoundTrip

/-!
# What decoding accepts and tells apart

An entry decodes if its key names a cell of the pipeline and none of its numbers is negative. The
result tells the key and the two pairs of numbers, but not which of them was committed, so it is
encoded as the same entry only if the entry had them in order.
-/

set_option autoImplicit false

namespace MeterSync

/-! ## Pairs in no order -/

theorem Band.mk_order (first second : Band) :
    s((first.order second).1, (first.order second).2) = s(first, second) := by
  cases first.atMost_total second with
  | inl ordered => rw [order_of_atMost ordered]
  | inr reversed =>
      rw [order_of_atMost_swap reversed]
      exact Sym2.eq_swap

/-- Two bands in order tell which bands they are, and nothing of how they were given. -/
theorem Band.order_eq_iff {first second other another : Band} :
    first.order second = other.order another ↔ s(first, second) = s(other, another) := by
  constructor
  · intro same
    rw [← mk_order first second, same, mk_order]
  · intro same
    rcases Sym2.eq_iff.mp same with ⟨rfl, rfl⟩ | ⟨rfl, rfl⟩
    · rfl
    · exact order_comm first second

namespace Wire.Config

instance (config : Config) : Decidable config.Unsigned :=
  inferInstanceAs (Decidable (_ ∧ _))

/-- The two pairs of a rate and a burst, in no order. -/
def pairs (config : Config) : Sym2 (Int64 × Int64) :=
  s((config.cir, config.cburst), (config.pir, config.pburst))

theorem pairs_eq_iff {first second : Config} :
    first.pairs = second.pairs ↔
      s(first.committed, first.peak) = s(second.committed, second.peak) := by
  have injective : Function.Injective fun pair : Int64 × Int64 =>
      Band.mk pair.1.toUInt64 pair.2.toUInt64 := by
    intro pair other same
    obtain ⟨rate, burst⟩ := Band.mk.inj same
    have back := congrArg UInt64.toInt64 rate
    have burstBack := congrArg UInt64.toInt64 burst
    rw [Int64.toInt64_toUInt64, Int64.toInt64_toUInt64] at back burstBack
    exact Prod.ext back burstBack
  exact (Sym2.map.injective injective).eq_iff.symm

/-- Exchanging committed and peak changes a configuration that is not in order. -/
theorem exchanged_ne {config : Config} (unordered : ¬ config.InOrder) :
    config.exchanged ≠ config := by
  intro same
  have rate : config.pir = config.cir := congrArg Config.cir same
  have burst : config.pburst = config.cburst := congrArg Config.cburst same
  apply unordered
  rw [InOrder, rate, burst]
  exact .inr ⟨rfl, Int.le_refl _⟩

end Wire.Config

theorem CellState.ofWire_eq_iff {first second : Option Wire.Config} :
    ofWire first = ofWire second ↔ first.map (·.pairs) = second.map (·.pairs) := by
  cases first with
  | none => cases second <;> simp [ofWire]
  | some first =>
      cases second with
      | none => simp [ofWire]
      | some second =>
          simp only [ofWire, CellState.modify.injEq, ← Prod.ext_iff, Band.order_eq_iff,
            Option.map_some, Option.some.injEq, Wire.Config.pairs_eq_iff]

/-! ## Entries -/

/-- One of the numbers of the entry is negative. -/
def Wire.Entry.hasNegative (entry : Entry) : Bool :=
  entry.config.any fun numbers => !decide numbers.Unsigned

theorem Wire.Entry.hasNegative_eq_false_iff {entry : Entry} :
    entry.hasNegative = false ↔ ∀ numbers ∈ entry.config, numbers.Unsigned := by
  rw [hasNegative]
  cases entry.config <;> simp

namespace Codec

variable {pipeline : Pipeline} {entry : Wire.Entry}

theorem isOk_decodeKey_iff :
    (∃ cell, decodeKey pipeline entry = .ok cell) ↔
      (∃ array ∈ pipeline.arrays, array.wireId = entry.meterId) ∧
        ∃ index, entry.index = some index ∧ 0 ≤ index.toInt := by
  simp only [decodeKey_eq_ok_iff]
  constructor
  · rintro ⟨_, array, member, numbered, index, given, unsigned, _⟩
    exact ⟨⟨array, member, numbered⟩, index, given, unsigned⟩
  · rintro ⟨⟨array, member, numbered⟩, index, given, unsigned⟩
    exact ⟨_, array, member, numbered, index, given, unsigned, rfl⟩

theorem isOk_decode_iff :
    (∃ config, decode pipeline entry = .ok config) ↔
      (∃ cell, decodeKey pipeline entry = .ok cell) ∧
        ∀ numbers ∈ entry.config, numbers.Unsigned := by
  simp only [decode_eq_ok_iff]
  constructor
  · rintro ⟨_, cell, key, unsigned, _⟩
    exact ⟨⟨cell, key⟩, unsigned⟩
  · rintro ⟨⟨cell, key⟩, unsigned⟩
    exact ⟨_, cell, key, unsigned, rfl⟩

/-- A cell is seen not to decode exactly if an entry for it has a negative number. -/
theorem undecodable?_eq (pipeline : Pipeline) (entry : Wire.Entry) :
    undecodable? pipeline entry =
      if entry.hasNegative then (decodeKey pipeline entry).toOption else none := by
  rw [undecodable?]
  cases decoded : decode pipeline entry with
  | ok config =>
      obtain ⟨_, unsigned⟩ := isOk_decode_iff.mp ⟨config, decoded⟩
      rw [Wire.Entry.hasNegative_eq_false_iff.mpr unsigned]
      rfl
  | error error =>
      cases sound : entry.hasNegative with
      | true => rfl
      | false =>
          cases key : decodeKey pipeline entry with
          | error error => rfl
          | ok cell =>
              obtain ⟨config, accepted⟩ :=
                isOk_decode_iff.mpr ⟨⟨cell, key⟩, Wire.Entry.hasNegative_eq_false_iff.mp sound⟩
              rw [decoded] at accepted
              cases accepted

theorem undecodable_ofEntries (pipeline : Pipeline) (entries : List Wire.Entry) :
    (Readout.ofEntries pipeline entries).undecodable =
      (entries.filter (·.hasNegative)).filterMap fun entry =>
        (decodeKey pipeline entry).toOption := by
  rw [List.filterMap_filter]
  exact congrArg entries.filterMap (funext (undecodable?_eq pipeline))

theorem decoded_eq_iff {first second : Wire.Entry} {config other : CellConfig}
    (decoded : decode pipeline first = .ok config)
    (otherDecoded : decode pipeline second = .ok other) :
    config = other ↔
      first.meterId = second.meterId ∧ first.index = second.index ∧
        first.config.map (·.pairs) = second.config.map (·.pairs) := by
  obtain ⟨cell, key, _, rfl⟩ := decode_eq_ok_iff.mp decoded
  obtain ⟨otherCell, otherKey, _, rfl⟩ := decode_eq_ok_iff.mp otherDecoded
  rw [CellConfig.mk.injEq, CellState.ofWire_eq_iff, ← and_assoc]
  refine and_congr_left fun _ => ⟨?_, ?_⟩
  · rintro rfl
    exact decodeKey_injective key otherKey
  · rintro ⟨sameId, sameIndex⟩
    rw [decodeKey_congr sameId sameIndex, otherKey] at key
    exact (Except.ok.inj key).symm

/-- What was decoded is encoded as it was read if its bands were in order, and only then. -/
theorem encode_decoded_iff {config : CellConfig} (decoded : decode pipeline entry = .ok config) :
    encode pipeline config = .ok entry ↔ ∀ numbers ∈ entry.config, numbers.InOrder := by
  obtain ⟨_, _, unsigned, _⟩ := decode_eq_ok_iff.mp decoded
  rw [encode_of_decode decoded]
  obtain ⟨meterId, index, wire⟩ := entry
  cases wire with
  | none => simp [CellState.ofWire, CellState.toWire]
  | some numbers =>
      rw [CellState.toWire_ofWire_some (unsigned numbers rfl)]
      by_cases ordered : numbers.InOrder
      · simp [ordered]
      · simp [ordered, Wire.Config.exchanged_ne ordered]

/-- A key is read exactly if the pipeline has its wire id and its index is there and not negative,
and an entry if moreover none of its numbers is negative. The cells that a readout has as
undecodable are those of the entries with a good key and a negative number, in their order. Two
entries are read as the same exactly if they have the same key and the same pairs of numbers, in
whichever order, or none; and what was read is written as the same entry exactly if the pairs were
in order. -/
theorem decoding_accepts_and_identifies (pipeline : Pipeline) :
    (∀ entry : Wire.Entry,
      (∃ cell, decodeKey pipeline entry = .ok cell) ↔
        (∃ array ∈ pipeline.arrays, array.wireId = entry.meterId) ∧
          ∃ index, entry.index = some index ∧ 0 ≤ index.toInt) ∧
    (∀ entry : Wire.Entry,
      (∃ config, decode pipeline entry = .ok config) ↔
        (∃ cell, decodeKey pipeline entry = .ok cell) ∧
          ∀ numbers ∈ entry.config, numbers.Unsigned) ∧
    (∀ entries : List Wire.Entry,
      (Readout.ofEntries pipeline entries).undecodable =
        (entries.filter (·.hasNegative)).filterMap fun entry =>
          (decodeKey pipeline entry).toOption) ∧
    (∀ (first second : Wire.Entry) (config other : CellConfig),
      decode pipeline first = .ok config → decode pipeline second = .ok other →
        (config = other ↔
          first.meterId = second.meterId ∧ first.index = second.index ∧
            first.config.map (·.pairs) = second.config.map (·.pairs))) ∧
    ∀ (entry : Wire.Entry) (config : CellConfig), decode pipeline entry = .ok config →
      (encode pipeline config = .ok entry ↔ ∀ numbers ∈ entry.config, numbers.InOrder) := by
  refine ⟨?_, ?_, ?_, ?_, ?_⟩
  · exact fun entry => isOk_decodeKey_iff
  · exact fun entry => isOk_decode_iff
  · exact undecodable_ofEntries pipeline
  · exact fun first second config other => decoded_eq_iff
  · exact fun entry config => encode_decoded_iff

/-- Bands of one rate are read alike in both orders, but only one of the entries is written back.
With a negative burst the entry is undecodable, and under a wire id that is not there it is passed
over. -/
theorem tied_pairs_identified :
    (∃ config, decode tied ⟨5, some 7, some ⟨500, 5, 500, 20⟩⟩ = .ok config ∧
      decode tied ⟨5, some 7, some ⟨500, 20, 500, 5⟩⟩ = .ok config ∧
      encode tied config = .ok ⟨5, some 7, some ⟨500, 5, 500, 20⟩⟩ ∧
      encode tied config ≠ .ok ⟨5, some 7, some ⟨500, 20, 500, 5⟩⟩) ∧
    (Readout.ofEntries tied [⟨5, some 7, some ⟨500, -20, 500, 5⟩⟩,
      ⟨6, some 7, some ⟨500, -20, 500, 5⟩⟩]).undecodable = [tiedCell] := by
  obtain ⟨_, accepts, undecodable, identifies, writes⟩ := decoding_accepts_and_identifies tied
  have key (config : Option Wire.Config) :
      ∃ cell, decodeKey tied ⟨5, some 7, config⟩ = .ok cell := ⟨tiedCell, rfl⟩
  obtain ⟨config, decoded⟩ := (accepts ⟨5, some 7, some ⟨500, 5, 500, 20⟩⟩).mpr
    ⟨key _, by decide⟩
  obtain ⟨other, otherDecoded⟩ := (accepts ⟨5, some 7, some ⟨500, 20, 500, 5⟩⟩).mpr
    ⟨key _, by decide⟩
  have same : config = other :=
    (identifies _ _ _ _ decoded otherDecoded).mpr ⟨rfl, rfl, congrArg some Sym2.eq_swap⟩
  subst same
  refine ⟨⟨config, decoded, otherDecoded, ?_, ?_⟩, ?_⟩
  · exact (writes _ _ decoded).mpr (by decide)
  · intro written
    exact absurd ((writes _ _ otherDecoded).mp written) (by decide)
  · rw [undecodable]
    rfl

end Codec

end MeterSync
