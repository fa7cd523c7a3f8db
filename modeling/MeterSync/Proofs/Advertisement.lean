import MeterSync.Proofs.Coordinator.Run
import MeterSync.Proofs.Repetition

/-!
# Features and resolution

What a device is said to be capable of is computed from its arrays without a meter at hand, and a
meter is resolved without a look at features. Both come to the same: a meter resolves exactly if the
features of its array cover it.
-/

set_option autoImplicit false

namespace MeterSync

/-- The band of a meter that asks for a device band and nothing else. -/
def Band.plain (band : Band) : MeterBand :=
  ⟨.uncolored, band.rate, some band.burst⟩

/-- The band has a burst, and neither of its numbers is too large for the wire. -/
def MeterBand.Bounded (band : MeterBand) : Prop :=
  ∃ burst, band.burst = some burst ∧ band.rate ≤ maxBandValue ∧ burst ≤ maxBandValue

/-- Everything that the meter asks for is within the features. Its name is left aside. -/
structure Features.Covers (features : Features) (meter : Meter) : Prop where
  first : features.startIndex ≤ meter.cell.index
  last : meter.cell.index ≤ features.endIndex
  unit : ∀ unit ∈ meter.unit, features.units.has unit = true
  count : meter.bands.length = features.maxBands.toNat
  kinds : ∀ band ∈ meter.bands, features.bandKinds.has band.kind = true
  bounds : ∀ band ∈ meter.bands, band.Bounded

theorem MeterId.text_injective : Function.Injective MeterId.text := by
  intro id other same
  cases id
  cases other
  cases same
  rfl

theorem MeterBand.bounded_iff {band : MeterBand} (uncolored : band.kind = .uncolored) :
    band.Bounded ↔ ∃ plain : Band, band = plain.plain ∧ plain.Fits := by
  obtain ⟨kind, rate, burst⟩ := band
  cases uncolored
  constructor
  · rintro ⟨size, rfl, fits⟩
    exact ⟨⟨rate, size⟩, rfl, fits⟩
  · rintro ⟨plain, same, fits⟩
    cases same
    exact ⟨plain.burst, rfl, fits⟩

namespace MeterArray

variable {array : MeterArray} {device : DeviceId} {meter : Meter}

theorem features_kinds {kind : BandKind} :
    (array.features device).bandKinds.has kind = true ↔ kind = .uncolored := by
  simp [features, KeywordSet.ofList]

theorem features_units {unit : RateUnit} :
    (array.features device).units.has unit = true ↔ array.unit.rateUnit? = some unit := by
  simp [features, KeywordSet.ofList]

/-- The last index of an array with cells is one less than its size. -/
theorem le_endIndex_iff (occupied : array.size ≠ 0) {index : UInt64} :
    index ≤ (array.features device).endIndex ↔ index < array.size := by
  have positive : array.size.toNat ≠ 0 := fun none => occupied (UInt64.toNat_inj.mp none)
  have one : (1 : UInt64) ≤ array.size := UInt64.le_iff_toNat_le.mpr (by simpa using by omega)
  rw [features, if_neg occupied, UInt64.le_iff_toNat_le, UInt64.lt_iff_toNat_lt,
    UInt64.toNat_sub_of_le _ _ one]
  simp only [UInt64.reduceToNat]
  omega

theorem covers_iff (occupied : array.size ≠ 0) :
    (array.features device).Covers meter ↔
      meter.cell.index < array.size ∧
      (∀ unit ∈ meter.unit, array.unit.rateUnit? = some unit) ∧
      ∃ first second : Band, meter.bands = [first.plain, second.plain] ∧
        first.Fits ∧ second.Fits := by
  constructor
  · intro covers
    have plain : ∀ band ∈ meter.bands, ∃ plain : Band, band = plain.plain ∧ plain.Fits :=
      fun band member => (MeterBand.bounded_iff (features_kinds.mp (covers.kinds band member))).mp
        (covers.bounds band member)
    refine ⟨(le_endIndex_iff occupied).mp covers.last,
      fun unit given => features_units.mp (covers.unit unit given), ?_⟩
    obtain ⟨first, second, bands⟩ := List.length_eq_two.mp covers.count
    rw [bands] at plain ⊢
    obtain ⟨committed, rfl, committedFits⟩ := plain first (by simp)
    obtain ⟨peak, rfl, peakFits⟩ := plain second (by simp)
    exact ⟨committed, peak, rfl, committedFits, peakFits⟩
  · rintro ⟨inside, units, first, second, bands, firstFits, secondFits⟩
    have each : ∀ band ∈ meter.bands, band.kind = .uncolored ∧ band.Bounded := by
      rw [bands]
      intro band member
      rcases List.mem_pair.mp member with rfl | rfl
      · exact ⟨rfl, first.burst, rfl, firstFits⟩
      · exact ⟨rfl, second.burst, rfl, secondFits⟩
    constructor
    · exact UInt64.zero_le
    · exact (le_endIndex_iff occupied).mpr inside
    · exact fun unit given => features_units.mpr (units unit given)
    · rw [bands]
      rfl
    · exact fun band member => features_kinds.mpr (each band member).1
    · exact fun band member => (each band member).2

end MeterArray

namespace Pipeline

variable {pipeline : Pipeline} {meter : Meter} {config : CellConfig}

/-- The features of a pipeline are found by the names of its arrays. -/
theorem mem_features_iff {device : DeviceId} {id : MeterId} {features : Features} :
    features ∈ pipeline.features device ∧ features.scope = id.text ↔
      ∃ array, pipeline.array? id = some array ∧ array.features device = features := by
  rw [Pipeline.features, List.mem_map]
  constructor
  · rintro ⟨⟨array, member, rfl⟩, named⟩
    exact ⟨array, array?_eq_some_iff.mpr ⟨member, MeterId.text_injective named⟩, rfl⟩
  · rintro ⟨array, found, rfl⟩
    obtain ⟨member, rfl⟩ := array?_eq_some_iff.mp found
    exact ⟨⟨array, member, rfl⟩, rfl⟩

theorem scopes_distinct (pipeline : Pipeline) (device : DeviceId) :
    ((pipeline.features device).map (·.scope)).Nodup := by
  have texts := pipeline.ids_distinct.map MeterId.text_injective
  simpa [Pipeline.features, MeterArray.features, Function.comp_def] using texts

theorem isOk_resolve_iff (device : DeviceId) :
    (∃ config, pipeline.resolve meter = .ok config) ↔
      ∃ array, pipeline.array? meter.cell.meter = some array ∧
        (array.features device).Covers meter := by
  constructor
  · rintro ⟨_, resolved⟩
    obtain ⟨array, first, second, found, inside, units, bands, firstFits, secondFits, _⟩ :=
      resolve_eq_ok_iff.mp resolved
    have occupied := pipeline.sizes_positive array (array?_eq_some_iff.mp found).1
    exact ⟨array, found, (MeterArray.covers_iff occupied).mpr
      ⟨inside, units, first, second, bands, firstFits, secondFits⟩⟩
  · rintro ⟨array, found, covers⟩
    have occupied := pipeline.sizes_positive array (array?_eq_some_iff.mp found).1
    obtain ⟨inside, units, first, second, bands, firstFits, secondFits⟩ :=
      (MeterArray.covers_iff occupied).mp covers
    exact ⟨_, resolve_eq_ok_iff.mpr
      ⟨array, first, second, found, inside, units, bands, firstFits, secondFits, rfl⟩⟩

/-- What a meter resolves to has its bands, the lesser one committed. -/
theorem bands_of_resolve (resolved : pipeline.resolve meter = .ok config) :
    ∃ committed peak : Band, config = ⟨meter.cell, .modify committed peak⟩ ∧
      committed.AtMost peak ∧ meter.bands.Perm [committed.plain, peak.plain] := by
  obtain ⟨_, first, second, _, _, _, bands, _, _, rfl⟩ := resolve_eq_ok_iff.mp resolved
  refine ⟨_, _, rfl, Band.order_atMost first second, ?_⟩
  rw [bands]
  exact (Band.order_perm first second).symm.map Band.plain

theorem resolve_reverse :
    pipeline.resolve { meter with bands := meter.bands.reverse } = .ok config ↔
      pipeline.resolve meter = .ok config := by
  have reversed {meter : Meter} (resolved : pipeline.resolve meter = .ok config) :
      pipeline.resolve { meter with bands := meter.bands.reverse } = .ok config := by
    obtain ⟨_, admitted⟩ := (resolve_eq_iff resolved rfl).mp resolved
    have same : ({ meter with bands := meter.bands.reverse } : Meter).cell = meter.cell := rfl
    exact (resolve_eq_iff resolved same).mpr ⟨List.reverse_perm meter.bands, admitted⟩
  constructor
  · intro resolved
    simpa using reversed resolved
  · exact reversed

end Pipeline

namespace Coordinator

variable {Shadow Connection : Type}

/-- The arrays of a device are told apart by the scopes of its features, and a meter resolves
exactly if the features with the name of its array cover it. It then resolves to its own cell with
its two bands, the committed one first, and to the same with the bands exchanged. -/
theorem features_decide_resolution (coordinator : Coordinator Shadow Connection)
    {device : DeviceId} {pipeline : Pipeline}
    (found : coordinator.pipeline? device = some pipeline) (meter : Meter) :
    ((coordinator.features device).map (·.scope)).Nodup ∧
    ((∃ config, pipeline.resolve meter = .ok config) ↔
      ∃ features ∈ coordinator.features device,
        features.scope = meter.cell.meter.text ∧ features.Covers meter) ∧
    ∀ config,
      (pipeline.resolve meter = .ok config →
        ∃ committed peak : Band, config = ⟨meter.cell, .modify committed peak⟩ ∧
          committed.AtMost peak ∧ meter.bands.Perm [committed.plain, peak.plain]) ∧
      (pipeline.resolve { meter with bands := meter.bands.reverse } = .ok config ↔
        pipeline.resolve meter = .ok config) := by
  have listed : coordinator.features device = pipeline.features device := by
    rw [Coordinator.features, found]
  rw [listed]
  refine ⟨pipeline.scopes_distinct device, ?_, ?_⟩
  · rw [Pipeline.isOk_resolve_iff device]
    constructor
    · rintro ⟨array, named, covers⟩
      obtain ⟨member, scope⟩ := Pipeline.mem_features_iff.mpr ⟨array, named, rfl⟩
      exact ⟨_, member, scope, covers⟩
    · rintro ⟨features, member, scope, covers⟩
      obtain ⟨array, named, rfl⟩ := Pipeline.mem_features_iff.mp ⟨member, scope⟩
      exact ⟨array, named, covers⟩
  · exact fun config => ⟨Pipeline.bands_of_resolve, Pipeline.resolve_reverse⟩

/-- The last cell of the array is covered in the unit of the array, and the one behind it is not. -/
theorem features_decide_last_cell :
    let last : Meter := { Sample.addition.meter with unit := some .kilobytes }
    let beyond : Meter := { last with cell := ⟨Sample.meter, 1⟩ }
    Sample.pipeline.resolve { last with bands := last.bands.reverse } =
        .ok (.modify Sample.handle.cell ⟨100, 10⟩ ⟨1000, 50⟩) ∧
      (∃ features ∈ Sample.start.features Sample.device,
        features.scope = "m" ∧ features.Covers last) ∧
      ¬ ∃ features ∈ Sample.start.features Sample.device,
        features.scope = "m" ∧ features.Covers beyond := by
  intro last beyond
  have found : Sample.start.pipeline? Sample.device = some Sample.pipeline := by decide +kernel
  have resolved : Sample.pipeline.resolve last =
      .ok (.modify Sample.handle.cell ⟨100, 10⟩ ⟨1000, 50⟩) := by decide +kernel
  have refused : ∀ config, Sample.pipeline.resolve beyond ≠ .ok config := by
    have error : Sample.pipeline.resolve beyond =
        .error (.indexOutOfRange Sample.meter 1 1) := by decide +kernel
    rw [error]
    exact nofun
  obtain ⟨_, covered, same⟩ := features_decide_resolution Sample.start found last
  obtain ⟨_, uncovered, _⟩ := features_decide_resolution Sample.start found beyond
  refine ⟨(same _).2.mpr resolved, covered.mp ⟨_, resolved⟩, ?_⟩
  intro features
  obtain ⟨config, accepted⟩ := uncovered.mpr features
  exact refused config accepted

end Coordinator

end MeterSync
