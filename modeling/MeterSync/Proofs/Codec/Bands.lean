import MeterSync.Codec
import MeterSync.Resolution

/-!
# Bands on the wire

A state is regular when the wire can carry it: it has no bands, or two that are in order and fit.
Regular states and their wire forms determine each other. A wire form whose bands are exchanged is
read as well, and stands for the same state as the one in order.
-/

set_option autoImplicit false

namespace MeterSync

theorem except_bind_eq_ok_iff {Error Value Result : Type} {source : Except Error Value}
    {continuation : Value → Except Error Result} {result : Result} :
    (source >>= continuation) = .ok result ↔
      ∃ value, source = .ok value ∧ continuation value = .ok result := by
  cases source with
  | error error => simp [bind, Except.bind]
  | ok value => simp [bind, Except.bind]

/-! ## The order of bands -/

namespace Band

theorem atMost_iff {first second : Band} :
    first.AtMost second ↔
      first.rate.toNat < second.rate.toNat ∨
        first.rate.toNat = second.rate.toNat ∧ first.burst.toNat ≤ second.burst.toNat := by
  rw [AtMost, UInt64.lt_iff_toNat_lt, UInt64.le_iff_toNat_le, UInt64.toNat_inj]

theorem atMost_total (first second : Band) : first.AtMost second ∨ second.AtMost first := by
  simp only [atMost_iff]
  omega

theorem AtMost.antisymm {first second : Band} (below : first.AtMost second)
    (above : second.AtMost first) : first = second := by
  rw [atMost_iff] at below above
  have rate : first.rate = second.rate := UInt64.toNat_inj.mp (by omega)
  have burst : first.burst = second.burst := UInt64.toNat_inj.mp (by omega)
  cases first
  cases second
  simp_all

theorem order_of_atMost {first second : Band} (ordered : first.AtMost second) :
    first.order second = (first, second) := by
  rw [order]
  split
  · rename_i reversed
    rw [ordered.antisymm reversed]
  · rfl

theorem order_of_atMost_swap {first second : Band} (reversed : second.AtMost first) :
    first.order second = (second, first) := by
  rw [order, if_pos reversed]

theorem order_atMost (first second : Band) :
    (first.order second).1.AtMost (first.order second).2 := by
  obtain ordered | reversed := atMost_total first second
  · rw [order_of_atMost ordered]
    exact ordered
  · rw [order_of_atMost_swap reversed]
    exact reversed

theorem order_comm (first second : Band) : first.order second = second.order first := by
  obtain ordered | reversed := atMost_total first second
  · rw [order_of_atMost ordered, order_of_atMost_swap ordered]
  · rw [order_of_atMost_swap reversed, order_of_atMost reversed]

theorem order_perm (first second : Band) :
    [(first.order second).1, (first.order second).2].Perm [first, second] := by
  obtain ordered | reversed := atMost_total first second
  · rw [order_of_atMost ordered]
  · rw [order_of_atMost_swap reversed]
    exact .swap first second []

/-- Neither number is too large for the wire. -/
def Fits (band : Band) : Prop :=
  band.rate ≤ Codec.maxWireValue ∧ band.burst ≤ Codec.maxWireValue

end Band

/-! ## Numbers on the wire -/

namespace Codec

theorem toWire_eq_ok_iff {number : WireNumber} {value : UInt64} {wire : Int64} :
    toWire number value = .ok wire ↔ value ≤ maxWireValue ∧ value.toInt64 = wire := by
  by_cases fits : value ≤ maxWireValue <;> simp [toWire, fits]

theorem fromWire_eq_ok_iff {number : WireNumber} {wire : Int64} {value : UInt64} :
    fromWire number wire = .ok value ↔ 0 ≤ wire.toInt ∧ wire.toUInt64 = value := by
  by_cases unsigned : 0 ≤ wire.toInt <;> simp [fromWire, unsigned]

theorem toInt_toInt64 {value : UInt64} (fits : value ≤ maxWireValue) :
    value.toInt64.toInt = value.toNat := by
  have bound : value.toNat < 2 ^ 63 := by
    have := UInt64.le_iff_toNat_le.mp fits
    simp only [maxWireValue, UInt64.reduceToNat] at this
    omega
  have spread : value.toInt64.toInt = value.toBitVec.toInt := rfl
  rw [spread, BitVec.toInt_eq_toNat_cond, UInt64.toNat_toBitVec, if_pos (by omega)]

theorem toUInt64_le_maxWireValue {wire : Int64} (unsigned : 0 ≤ wire.toInt) :
    wire.toUInt64 ≤ maxWireValue := by
  have spread : wire.toInt = wire.toUInt64.toBitVec.toInt := rfl
  rw [spread, BitVec.toInt_eq_toNat_cond, UInt64.toNat_toBitVec] at unsigned
  have bound := wire.toUInt64.toNat_lt
  rw [UInt64.le_iff_toNat_le]
  simp only [maxWireValue, UInt64.reduceToNat]
  split at unsigned <;> omega

theorem toNat_toUInt64 {wire : Int64} (unsigned : 0 ≤ wire.toInt) :
    (wire.toUInt64.toNat : Int) = wire.toInt := by
  have back := toInt_toInt64 (toUInt64_le_maxWireValue unsigned)
  rw [Int64.toInt64_toUInt64] at back
  exact back.symm

end Codec

namespace Wire.Config

/-- No number is negative. -/
def Unsigned (config : Config) : Prop :=
  0 ≤ config.cir.toInt ∧ 0 ≤ config.cburst.toInt ∧ 0 ≤ config.pir.toInt ∧ 0 ≤ config.pburst.toInt

/-- The committed rate with its burst does not come after the peak rate with its burst. -/
def InOrder (config : Config) : Prop :=
  config.cir.toInt < config.pir.toInt ∨
    config.cir.toInt = config.pir.toInt ∧ config.cburst.toInt ≤ config.pburst.toInt

instance (config : Config) : Decidable config.InOrder :=
  inferInstanceAs (Decidable (_ ∨ _))

/-- The configuration with committed and peak in each other's place. -/
def exchanged (config : Config) : Config :=
  ⟨config.pir, config.pburst, config.cir, config.cburst⟩

/-- The committed numbers as a band. -/
def committed (config : Config) : Band :=
  ⟨config.cir.toUInt64, config.cburst.toUInt64⟩

/-- The peak numbers as a band. -/
def peak (config : Config) : Band :=
  ⟨config.pir.toUInt64, config.pburst.toUInt64⟩

/-- Two bands as the numbers of a configuration. -/
def ofBands (committed peak : Band) : Config :=
  ⟨committed.rate.toInt64, committed.burst.toInt64, peak.rate.toInt64, peak.burst.toInt64⟩

theorem Unsigned.fits {config : Config} (unsigned : config.Unsigned) :
    config.committed.Fits ∧ config.peak.Fits := by
  obtain ⟨cir, cburst, pir, pburst⟩ := unsigned
  exact ⟨⟨Codec.toUInt64_le_maxWireValue cir, Codec.toUInt64_le_maxWireValue cburst⟩,
    Codec.toUInt64_le_maxWireValue pir, Codec.toUInt64_le_maxWireValue pburst⟩

theorem Unsigned.inOrder_iff {config : Config} (unsigned : config.Unsigned) :
    config.InOrder ↔ config.committed.AtMost config.peak := by
  obtain ⟨cir, cburst, pir, pburst⟩ := unsigned
  rw [Band.atMost_iff, InOrder, ← Codec.toNat_toUInt64 cir, ← Codec.toNat_toUInt64 cburst,
    ← Codec.toNat_toUInt64 pir, ← Codec.toNat_toUInt64 pburst]
  simp only [committed, peak]
  omega

@[simp] theorem committed_ofBands (committed peak : Band) :
    (ofBands committed peak).committed = committed := rfl

@[simp] theorem peak_ofBands (committed peak : Band) : (ofBands committed peak).peak = peak := rfl

theorem unsigned_ofBands {committed peak : Band} (fits : committed.Fits ∧ peak.Fits) :
    (ofBands committed peak).Unsigned := by
  obtain ⟨⟨cir, cburst⟩, pir, pburst⟩ := fits
  simp [Unsigned, ofBands, Codec.toInt_toInt64, cir, cburst, pir, pburst]

end Wire.Config

/-! ## Regular states -/

namespace CellState

/-- A state that the wire can carry: no bands, or two in order that fit. -/
inductive Regular : CellState → Prop where
  | reset : Regular .reset
  | modify {committed peak : Band} :
      committed.AtMost peak → committed.Fits → peak.Fits → Regular (.modify committed peak)

/-- The numbers of a state as they stand, none for a reset. -/
def toWire : CellState → Option Wire.Config
  | .reset => none
  | .modify committed peak => some (.ofBands committed peak)

/-- The state of a cell with the numbers of a wire configuration, in order. -/
def ofWire : Option Wire.Config → CellState
  | none => .reset
  | some config =>
    .modify (config.committed.order config.peak).1 (config.committed.order config.peak).2

theorem regular_ofWire {wire : Option Wire.Config} (unsigned : ∀ config ∈ wire, config.Unsigned) :
    (ofWire wire).Regular := by
  cases wire with
  | none => exact .reset
  | some config =>
      obtain ⟨committed, peak⟩ := (unsigned config rfl).fits
      have ordered := Band.order_atMost config.committed config.peak
      rw [ofWire]
      by_cases order : config.committed.AtMost config.peak
      · rw [Band.order_of_atMost order] at ordered ⊢
        exact .modify ordered committed peak
      · have reversed := (Band.atMost_total config.committed config.peak).resolve_left order
        rw [Band.order_of_atMost_swap reversed] at ordered ⊢
        exact .modify ordered peak committed

theorem Regular.ofWire_toWire {state : CellState} (regular : state.Regular) :
    ofWire state.toWire = state := by
  cases regular with
  | reset => rfl
  | modify ordered _ _ =>
      simp only [toWire, ofWire, Wire.Config.committed_ofBands, Wire.Config.peak_ofBands,
        Band.order_of_atMost ordered]

theorem Regular.toWire_unsigned {state : CellState} (regular : state.Regular) :
    ∀ config ∈ state.toWire, config.Unsigned := by
  cases regular with
  | reset => simp [toWire]
  | modify _ committed peak =>
      rintro config member
      rw [Option.mem_some.mp member.symm]
      exact Wire.Config.unsigned_ofBands ⟨committed, peak⟩

theorem Regular.toWire_inOrder {state : CellState} (regular : state.Regular) :
    ∀ config ∈ state.toWire, config.InOrder := by
  intro config member
  have unsigned := regular.toWire_unsigned config member
  cases regular with
  | reset => simp [toWire] at member
  | modify ordered _ _ =>
      cases Option.mem_some.mp member
      exact unsigned.inOrder_iff.mpr ordered

/-- Reading and writing again puts the bands in order and does nothing else. -/
theorem toWire_ofWire_some {config : Wire.Config} (unsigned : config.Unsigned) :
    (ofWire (some config)).toWire =
      some (if config.InOrder then config else config.exchanged) := by
  rw [ofWire, toWire]
  by_cases ordered : config.InOrder
  · rw [if_pos ordered, Band.order_of_atMost (unsigned.inOrder_iff.mp ordered)]
    rfl
  · have reversed := (Band.atMost_total config.committed config.peak).resolve_left
      fun order => ordered (unsigned.inOrder_iff.mpr order)
    rw [if_neg ordered, Band.order_of_atMost_swap reversed]
    rfl

theorem toWire_ofWire {wire : Option Wire.Config}
    (writable : ∀ config ∈ wire, config.Unsigned ∧ config.InOrder) :
    (ofWire wire).toWire = wire := by
  cases wire with
  | none => rfl
  | some config =>
      obtain ⟨unsigned, ordered⟩ := writable config rfl
      rw [toWire_ofWire_some unsigned, if_pos ordered]

end CellState

/-! ## Coding of bands -/

namespace CellConfig

theorem regular_modify {cell : CellId} {first second : Band} (firstFits : first.Fits)
    (secondFits : second.Fits) : (modify cell first second).state.Regular := by
  have ordered := Band.order_atMost first second
  rw [modify]
  obtain order | reversed := Band.atMost_total first second
  · rw [Band.order_of_atMost order] at ordered ⊢
    exact .modify ordered firstFits secondFits
  · rw [Band.order_of_atMost_swap reversed] at ordered ⊢
    exact .modify ordered secondFits firstFits

@[simp] theorem reset_cell (cell : CellId) : (reset cell).cell = cell := rfl

@[simp] theorem reset_state (cell : CellId) : (reset cell).state = .reset := rfl

@[simp] theorem modify_cell (cell : CellId) (first second : Band) :
    (modify cell first second).cell = cell := rfl

theorem isDefault_iff {config : CellConfig} :
    config.isDefault = true ↔ config = reset config.cell := by
  obtain ⟨cell, state⟩ := config
  cases state <;> simp [isDefault, reset]

end CellConfig

namespace Codec

theorem pairToWire_of_fits {committed peak : Band} (committedFits : committed.Fits)
    (peakFits : peak.Fits) : pairToWire committed peak = .ok (.ofBands committed peak) := by
  obtain ⟨cir, cburst⟩ := committedFits
  obtain ⟨pir, pburst⟩ := peakFits
  simp [pairToWire, toWire, cir, cburst, pir, pburst, Wire.Config.ofBands, bind, Except.bind, pure,
    Except.pure]

theorem bandsToWire_bands {config : CellConfig} (regular : config.state.Regular) :
    bandsToWire config.bands = .ok config.state.toWire := by
  obtain ⟨cell, state⟩ := config
  cases regular with
  | reset => rfl
  | modify ordered committed peak =>
      simp only [CellConfig.bands, bandsToWire, Band.order_of_atMost ordered,
        pairToWire_of_fits committed peak]
      rfl

theorem configOfWire_eq_ok_iff {cell : CellId} {wire : Option Wire.Config} {config : CellConfig} :
    configOfWire cell wire = .ok config ↔
      (∀ numbers ∈ wire, numbers.Unsigned) ∧ ⟨cell, .ofWire wire⟩ = config := by
  cases wire with
  | none => simp [configOfWire, CellConfig.reset, CellState.ofWire]
  | some numbers =>
      simp only [configOfWire, except_bind_eq_ok_iff, fromWire_eq_ok_iff, pure, Except.pure,
        Except.ok.injEq, Option.mem_some_iff, forall_eq', Wire.Config.Unsigned]
      constructor
      · intro decoded
        rcases decoded with ⟨_, ⟨cir, rfl⟩, _, ⟨cburst, rfl⟩, _, ⟨pir, rfl⟩, _, ⟨pburst, rfl⟩, rfl⟩
        exact ⟨⟨cir, cburst, pir, pburst⟩, rfl⟩
      · intro unsigned
        rcases unsigned with ⟨⟨cir, cburst, pir, pburst⟩, rfl⟩
        exact ⟨_, ⟨cir, rfl⟩, _, ⟨cburst, rfl⟩, _, ⟨pir, rfl⟩, _, ⟨pburst, rfl⟩, rfl⟩

end Codec

end MeterSync
