import MeterSync.Proofs.Codec.Bands

/-!
# When a meter resolves

A meter resolves exactly when its cell is there, its unit is that of the array, and it has two
bands that the wire can carry.
-/

set_option autoImplicit false

namespace MeterSync

theorem MeterBand.resolve_eq_ok_iff {position : Nat} {meterBand : MeterBand} {band : Band} :
    meterBand.resolve position = .ok band ↔
      meterBand = ⟨.uncolored, band.rate, some band.burst⟩ ∧ band.Fits := by
  obtain ⟨kind, rate, burst⟩ := meterBand
  obtain ⟨bandRate, bandBurst⟩ := band
  have bound : maxBandValue = Codec.maxWireValue := rfl
  cases burst with
  | none => by_cases plain : kind = .uncolored <;> simp [resolve, plain]
  | some burst =>
      by_cases plain : kind = .uncolored
      · by_cases rateFits : rate ≤ Codec.maxWireValue
        · by_cases burstFits : burst ≤ Codec.maxWireValue
          · simp only [resolve, plain, bound, UInt64.not_lt.mpr rateFits,
              UInt64.not_lt.mpr burstFits, Band.Fits]
            grind
          · simp only [resolve, plain, bound, UInt64.not_lt.mpr rateFits,
              UInt64.not_le.mp burstFits, Band.Fits]
            grind
        · simp only [resolve, plain, bound, UInt64.not_le.mp rateFits, Band.Fits]
          grind
      · simp [resolve, plain]

theorem Pipeline.resolve_eq_ok_iff {pipeline : Pipeline} {meter : Meter} {config : CellConfig} :
    pipeline.resolve meter = .ok config ↔
      ∃ array first second,
        pipeline.array? meter.cell.meter = some array ∧
        meter.cell.index < array.size ∧
        (∀ unit ∈ meter.unit, array.unit.rateUnit? = some unit) ∧
        meter.bands = [⟨.uncolored, first.rate, some first.burst⟩,
          ⟨.uncolored, second.rate, some second.burst⟩] ∧
        first.Fits ∧ second.Fits ∧ config = .modify meter.cell first second := by
  constructor
  · intro resolved
    rw [resolve] at resolved
    split at resolved
    · cases resolved
    · rename_i array found
      split at resolved
      · cases resolved
      · rename_i inside
        split at resolved
        · cases resolved
        · rename_i units
          split at resolved
          · rename_i bands
            simp only [except_bind_eq_ok_iff, MeterBand.resolve_eq_ok_iff] at resolved
            obtain ⟨first, ⟨rfl, firstFits⟩, second, ⟨rfl, secondFits⟩, same⟩ := resolved
            cases same
            exact ⟨array, first, second, found, UInt64.not_le.mp inside,
              by simpa using Option.filter_eq_none_iff.mp units, bands, firstFits, secondFits, rfl⟩
          · cases resolved
  · intro carried
    rcases carried with
      ⟨array, first, second, found, inside, units, bands, firstFits, secondFits, rfl⟩
    have supported : meter.unit.filter (fun unit => array.unit.rateUnit? ≠ some unit) = none :=
      Option.filter_eq_none_iff.mpr (by simpa using units)
    have firstResolved : MeterBand.resolve 0 ⟨.uncolored, first.rate, some first.burst⟩ =
        .ok first := MeterBand.resolve_eq_ok_iff.mpr ⟨rfl, firstFits⟩
    have secondResolved : MeterBand.resolve 1 ⟨.uncolored, second.rate, some second.burst⟩ =
        .ok second := MeterBand.resolve_eq_ok_iff.mpr ⟨rfl, secondFits⟩
    simp only [resolve, found, UInt64.not_le.mpr inside, if_false, supported, bands, firstResolved,
      secondResolved]
    rfl

end MeterSync
