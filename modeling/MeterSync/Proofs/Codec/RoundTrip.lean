import MeterSync.Proofs.Codec.Keys

/-!
# What encoding keeps

A configuration is encoded whatever the order of its bands, and decoded with its bands in order. So
encoding loses the order in which bands are held and nothing else, and nothing at all of what the
builders make, which hold bands in order.
-/

set_option autoImplicit false

namespace MeterSync

theorem Band.order_order (first second : Band) :
    (first.order second).1.order (first.order second).2 = first.order second :=
  order_of_atMost (order_atMost first second)

theorem Band.fits_order_iff {first second : Band} :
    (first.order second).1.Fits ∧ (first.order second).2.Fits ↔ first.Fits ∧ second.Fits := by
  obtain ordered | reversed := first.atMost_total second
  · rw [order_of_atMost ordered]
  · rw [order_of_atMost_swap reversed]
    exact and_comm

namespace CellConfig

/-- The configuration with its two bands, if it has them, in order. -/
def inOrder (config : CellConfig) : CellConfig :=
  match config.state with
  | .reset => reset config.cell
  | .modify first second => modify config.cell first second

/-- A configuration that one of the builders made. -/
inductive Built : CellConfig → Prop where
  | reset (cell : CellId) : Built (.reset cell)
  | modify (cell : CellId) (first second : Band) : Built (.modify cell first second)
  | ofBands {cell : CellId} {bands : List Band} {config : CellConfig} :
      CellConfig.ofBands cell bands = .ok config → Built config

@[simp] theorem inOrder_cell (config : CellConfig) : config.inOrder.cell = config.cell := by
  obtain ⟨cell, state⟩ := config
  cases state <;> rfl

theorem inOrder_reset (cell : CellId) : (reset cell).inOrder = reset cell := rfl

theorem inOrder_modify (cell : CellId) (first second : Band) :
    (modify cell first second).inOrder = modify cell first second := by
  have settled := Band.order_order first second
  simp only [inOrder, modify, settled]

theorem Built.inOrder_eq {config : CellConfig} (built : config.Built) :
    config.inOrder = config := by
  cases built with
  | reset cell => exact inOrder_reset cell
  | modify cell first second => exact inOrder_modify cell first second
  | @ofBands cell bands _ made =>
      match bands, made with
      | [], made =>
          cases made
          exact inOrder_reset cell
      | [first, second], made =>
          cases made
          exact inOrder_modify cell first second

theorem ofBands_bands (config : CellConfig) :
    ofBands config.cell config.bands = .ok config.inOrder := by
  obtain ⟨cell, state⟩ := config
  cases state <;> rfl

theorem regular_inOrder_iff {config : CellConfig} :
    config.inOrder.state.Regular ↔ ∀ band ∈ config.bands, band.Fits := by
  obtain ⟨cell, state⟩ := config
  cases state with
  | reset =>
      constructor
      · exact fun _ => List.forall_mem_nil _
      · exact fun _ => .reset
  | modify first second =>
      rw [bands, List.forall_mem_cons, List.forall_mem_singleton]
      constructor
      · intro regular
        cases regular with
        | modify _ committed peak => exact Band.fits_order_iff.mp ⟨committed, peak⟩
      · intro fits
        obtain ⟨firstFits, secondFits⟩ := fits
        exact regular_modify firstFits secondFits

end CellConfig

namespace Codec

variable {pipeline : Pipeline} {config : CellConfig}

theorem pairToWire_eq_ok_iff {committed peak : Band} {wire : Wire.Config} :
    pairToWire committed peak = .ok wire ↔
      committed.Fits ∧ peak.Fits ∧ .ofBands committed peak = wire := by
  constructor
  · intro carried
    simp only [pairToWire, except_bind_eq_ok_iff, toWire_eq_ok_iff, pure, Except.pure,
      Except.ok.injEq] at carried
    obtain ⟨_, ⟨cir, rfl⟩, _, ⟨cburst, rfl⟩, _, ⟨pir, rfl⟩, _, ⟨pburst, rfl⟩, rfl⟩ := carried
    exact ⟨⟨cir, cburst⟩, ⟨pir, pburst⟩, rfl⟩
  · intro fits
    obtain ⟨committedFits, peakFits, rfl⟩ := fits
    exact pairToWire_of_fits committedFits peakFits

theorem bandsToWire_inOrder (config : CellConfig) :
    bandsToWire config.inOrder.bands = bandsToWire config.bands := by
  obtain ⟨cell, state⟩ := config
  cases state with
  | reset => rfl
  | modify first second =>
      have settled := Band.order_order first second
      simp only [CellConfig.inOrder, CellConfig.modify, CellConfig.bands, bandsToWire, settled]

theorem encode_inOrder (pipeline : Pipeline) (config : CellConfig) :
    encode pipeline config.inOrder = encode pipeline config := by
  rw [encode, encode, CellConfig.inOrder_cell, bandsToWire_inOrder]

theorem regular_of_bandsToWire {wire : Option Wire.Config}
    (carried : bandsToWire config.bands = .ok wire) : config.inOrder.state.Regular := by
  obtain ⟨cell, state⟩ := config
  cases state with
  | reset => exact .reset
  | modify first second =>
      rw [CellConfig.bands, bandsToWire] at carried
      cases pair : pairToWire (first.order second).1 (first.order second).2 with
      | error error =>
          rw [pair] at carried
          cases carried
      | ok numbers =>
          obtain ⟨committed, peak, _⟩ := pairToWire_eq_ok_iff.mp pair
          exact .modify (Band.order_atMost first second) committed peak

/-- In whatever order its bands are held, a configuration is encoded as its bands in order are. -/
theorem encode_eq_ok_iff_inOrder {entry : Wire.Entry} :
    encode pipeline config = .ok entry ↔
      config.inOrder.state.Regular ∧ ∃ key, encodeKey pipeline config.cell = .ok key ∧
        { key with config := config.inOrder.state.toWire } = entry := by
  have regular (encoded : encode pipeline config = .ok entry) :
      config.inOrder.state.Regular := by
    rw [encode, except_bind_eq_ok_iff] at encoded
    obtain ⟨_, _, rest⟩ := encoded
    obtain ⟨_, carried, _⟩ := except_bind_eq_ok_iff.mp rest
    exact regular_of_bandsToWire carried
  constructor
  · intro encoded
    have ordered := regular encoded
    rw [← encode_inOrder, encode_eq_ok_iff ordered, CellConfig.inOrder_cell] at encoded
    exact ⟨ordered, encoded⟩
  · intro keyed
    obtain ⟨ordered, rest⟩ := keyed
    rw [← encode_inOrder, encode_eq_ok_iff ordered, CellConfig.inOrder_cell]
    exact rest

theorem isOk_encodeKey_iff {cell : CellId} :
    (∃ key, encodeKey pipeline cell = .ok key) ↔
      (∃ array ∈ pipeline.arrays, array.id = cell.meter) ∧ cell.index ≤ maxWireValue := by
  constructor
  · intro encoded
    obtain ⟨key, keyed⟩ := encoded
    obtain ⟨array, member, named, fits, _⟩ := encodeKey_eq_ok_iff.mp keyed
    exact ⟨⟨array, member, named⟩, fits⟩
  · intro addressed
    obtain ⟨⟨array, member, named⟩, fits⟩ := addressed
    exact ⟨_, encodeKey_eq_ok_iff.mpr ⟨array, member, named, fits, rfl⟩⟩

theorem isOk_encode_iff :
    (∃ entry, encode pipeline config = .ok entry) ↔
      (∃ array ∈ pipeline.arrays, array.id = config.cell.meter) ∧
        config.cell.index ≤ maxWireValue ∧ ∀ band ∈ config.bands, band.Fits := by
  constructor
  · intro encoded
    obtain ⟨entry, encoded⟩ := encoded
    obtain ⟨regular, key, keyed, _⟩ := encode_eq_ok_iff_inOrder.mp encoded
    obtain ⟨named, fits⟩ := isOk_encodeKey_iff.mp ⟨key, keyed⟩
    exact ⟨named, fits, CellConfig.regular_inOrder_iff.mp regular⟩
  · intro carried
    obtain ⟨named, index, fits⟩ := carried
    obtain ⟨key, keyed⟩ := isOk_encodeKey_iff.mpr ⟨named, index⟩
    exact ⟨_, encode_eq_ok_iff_inOrder.mpr
      ⟨CellConfig.regular_inOrder_iff.mpr fits, key, keyed, rfl⟩⟩

theorem decode_of_encode_inOrder {entry : Wire.Entry}
    (encoded : encode pipeline config = .ok entry) :
    decode pipeline entry = .ok config.inOrder := by
  obtain ⟨regular, _⟩ := encode_eq_ok_iff_inOrder.mp encoded
  rw [← encode_inOrder] at encoded
  exact decode_of_encode regular encoded

theorem config_of_encode {entry : Wire.Entry} (encoded : encode pipeline config = .ok entry) :
    entry.config = config.inOrder.state.toWire := by
  obtain ⟨_, _, _, rfl⟩ := encode_eq_ok_iff_inOrder.mp encoded
  rfl

/-- A configuration is encoded exactly if the pipeline has its meter and its index and all of its
numbers fit the wire, and is decoded with its bands in order; if a builder made it, it is decoded as
it was. So what builders make can be told from its encoding, a reset has no numbers where bands of
zero have zeros, and no two cells share a key. -/
theorem encoding_keeps_cells (pipeline : Pipeline) :
    (∀ config : CellConfig,
      ((∃ entry, encode pipeline config = .ok entry) ↔
        (∃ array ∈ pipeline.arrays, array.id = config.cell.meter) ∧
          config.cell.index ≤ maxWireValue ∧ ∀ band ∈ config.bands, band.Fits) ∧
      ∀ entry, encode pipeline config = .ok entry →
        ∃ ordered, CellConfig.ofBands config.cell config.bands = .ok ordered ∧
          decode pipeline entry = .ok ordered ∧ (config.Built → ordered = config)) ∧
    (∀ cell : CellId,
      ((∃ key, encodeKey pipeline cell = .ok key) ↔
        (∃ array ∈ pipeline.arrays, array.id = cell.meter) ∧ cell.index ≤ maxWireValue) ∧
      ∀ key, encodeKey pipeline cell = .ok key → decodeKey pipeline key = .ok cell) ∧
    (∀ first second : CellConfig, first.Built → second.Built → ∀ entry,
      encode pipeline first = .ok entry → encode pipeline second = .ok entry → first = second) ∧
    (∀ cell entry,
      (encode pipeline (.reset cell) = .ok entry → entry.config = none) ∧
      (encode pipeline (.modify cell ⟨0, 0⟩ ⟨0, 0⟩) = .ok entry → entry.config = some .zero)) ∧
    ∀ (first second : CellConfig) (firstEntry secondEntry : Wire.Entry),
      encode pipeline first = .ok firstEntry → encode pipeline second = .ok secondEntry →
      firstEntry.meterId = secondEntry.meterId → firstEntry.index = secondEntry.index →
        first.cell = second.cell := by
  refine ⟨?_, ?_, ?_, ?_, ?_⟩
  · intro config
    refine ⟨isOk_encode_iff, ?_⟩
    intro entry encoded
    exact ⟨config.inOrder, config.ofBands_bands, decode_of_encode_inOrder encoded,
      fun built => built.inOrder_eq⟩
  · intro cell
    exact ⟨isOk_encodeKey_iff, fun key encoded => decodeKey_of_encodeKey encoded⟩
  · intro first second firstBuilt secondBuilt entry firstEncoded secondEncoded
    have firstDecoded := decode_of_encode_inOrder firstEncoded
    have secondDecoded := decode_of_encode_inOrder secondEncoded
    rw [firstBuilt.inOrder_eq] at firstDecoded
    rw [secondBuilt.inOrder_eq] at secondDecoded
    exact Except.ok.inj (firstDecoded.symm.trans secondDecoded)
  · intro cell entry
    exact ⟨config_of_encode, config_of_encode⟩
  · intro first second firstEntry secondEntry firstEncoded secondEncoded sameId sameIndex
    have firstKey := decodeKey_of_decode (decode_of_encode_inOrder firstEncoded)
    have secondKey := decodeKey_of_decode (decode_of_encode_inOrder secondEncoded)
    rw [decodeKey_congr sameId sameIndex, CellConfig.inOrder_cell] at firstKey
    rw [CellConfig.inOrder_cell] at secondKey
    exact Except.ok.inj (firstKey.symm.trans secondKey)

/-! ## Bands of one rate -/

def tied : Pipeline :=
  ⟨[⟨⟨"k", by decide⟩, 5, 16, .bytes⟩], by decide, by decide, by decide⟩

def tiedCell : CellId := ⟨⟨"k", by decide⟩, 7⟩

/-- The greater burst is held first, as no builder leaves it. -/
def reversedTie : CellConfig := ⟨tiedCell, .modify ⟨500, 20⟩ ⟨500, 5⟩⟩

theorem encoding_keeps_tied :
    encode tied reversedTie = .ok ⟨5, some 7, some ⟨500, 5, 500, 20⟩⟩ ∧
      (∃ ordered, CellConfig.ofBands tiedCell reversedTie.bands = .ok ordered ∧
        decode tied ⟨5, some 7, some ⟨500, 5, 500, 20⟩⟩ = .ok ordered) ∧
      decodeKey tied ⟨5, some 7, none⟩ = .ok tiedCell ∧
      CellConfig.modify tiedCell ⟨500, 20⟩ ⟨500, 5⟩ =
        .modify tiedCell ⟨500, 5⟩ ⟨500, 20⟩ := by
  have encoded : encode tied reversedTie = .ok ⟨5, some 7, some ⟨500, 5, 500, 20⟩⟩ := by rfl
  obtain ⟨each, keys, apart, _⟩ := encoding_keeps_cells tied
  obtain ⟨ordered, made, decoded, _⟩ := (each reversedTie).2 _ encoded
  refine ⟨encoded, ⟨ordered, made, decoded⟩, (keys tiedCell).2 _ (by rfl), ?_⟩
  exact apart _ _ (.modify ..) (.modify ..) ⟨5, some 7, some ⟨500, 5, 500, 20⟩⟩ (by rfl) (by rfl)

end Codec

end MeterSync
