import Mathlib.Data.List.Permutation
import MeterSync.Proofs.Codec.Acceptance

/-!
# Two ways to the wire

Bands become a wire configuration directly, or are given to a cell that is encoded then. The second
way puts them in order twice. As the order does not change bands that are in order, both ways find
the same number that is too large, or write the same numbers.
-/

set_option autoImplicit false

namespace MeterSync

theorem CellConfig.ofBands_of_length {bands : List Band} (given : bands.length ≠ 0)
    (unpaired : bands.length ≠ 2) (cell : CellId) :
    ofBands cell bands = .error ⟨bands.length⟩ := by
  match bands, given, unpaired with
  | [_], _, _ => rfl
  | _ :: _ :: _ :: _, _, _ => rfl

/-- A cell does not tell in which order its bands were given. -/
theorem CellConfig.ofBands_perm {bands shuffled : List Band} (same : shuffled.Perm bands)
    (cell : CellId) : ofBands cell shuffled = ofBands cell bands := by
  match bands, same with
  | [], same => rw [same.eq_nil]
  | [band], same => rw [List.perm_singleton.mp same]
  | [first, second], same =>
      rcases List.perm_pair.mp same with rfl | rfl
      · rfl
      · simp only [ofBands, modify, Band.order_comm]
  | first :: second :: third :: rest, same =>
      have length := same.length_eq
      rw [ofBands_of_length (by simp [length]) (by simp [length]), length]
      rfl

namespace Codec

/-! ## Numbers that are too large -/

/-- The numbers of two bands, in the order in which the wire takes them. -/
def pairNumbers (committed peak : Band) : List (WireNumber × UInt64) :=
  [(.cir, committed.rate), (.cburst, committed.burst), (.pir, peak.rate), (.pburst, peak.burst)]

/-- The first number of two bands that is too large for the wire. -/
def tooLarge? (committed peak : Band) : Option (WireNumber × UInt64) :=
  (pairNumbers committed peak).find? fun number => maxWireValue < number.2

theorem toWire_bind {Result : Type} (number : WireNumber) (value : UInt64)
    (next : Int64 → Except CodecError Result) :
    (toWire number value >>= next) =
      if maxWireValue < value then .error (.outOfRange number value.toNat)
      else next value.toInt64 := by
  by_cases large : maxWireValue < value
  · rw [if_pos large, toWire, if_neg (UInt64.not_le.mpr large)]
    rfl
  · rw [if_neg large, toWire, if_pos (UInt64.not_lt.mp large)]
    rfl

/-- Two bands fail to be carried by the first of their numbers that is too large. -/
theorem pairToWire_eq (committed peak : Band) :
    pairToWire committed peak =
      match tooLarge? committed peak with
      | some (number, value) => .error (.outOfRange number value.toNat)
      | none => .ok (.ofBands committed peak) := by
  simp only [pairToWire, toWire_bind, tooLarge?, pairNumbers]
  by_cases cir : maxWireValue < committed.rate
  · simp [cir]
  by_cases cburst : maxWireValue < committed.burst
  · simp [cir, cburst]
  by_cases pir : maxWireValue < peak.rate
  · simp [cir, cburst, pir]
  by_cases pburst : maxWireValue < peak.burst
  · simp [cir, cburst, pir, pburst]
  · simp [cir, cburst, pir, pburst, Wire.Config.ofBands, pure, Except.pure]

/-! ## The way through a cell -/

/-- The wire configuration of a cell that is given some bands. -/
def wireOfBands (pipeline : Pipeline) (cell : CellId) (bands : List Band) :
    Except CodecError (Option Wire.Config) :=
  match CellConfig.ofBands cell bands with
  | .error error => .error (.bandCount error.found)
  | .ok config => (encode pipeline config).map (·.config)

theorem bandsToWire_eq (cell : CellId) (bands : List Band) :
    bandsToWire bands =
      match CellConfig.ofBands cell bands with
      | .error error => .error (.bandCount error.found)
      | .ok config => bandsToWire config.bands := by
  match bands with
  | [] => rfl
  | [_] => rfl
  | [first, second] =>
      have settled := Band.order_order first second
      simp only [CellConfig.ofBands, CellConfig.modify, CellConfig.bands, bandsToWire, settled]
  | _ :: _ :: _ :: _ => rfl

theorem encode_config {pipeline : Pipeline} {config : CellConfig} {key : Wire.Entry}
    (keyed : encodeKey pipeline config.cell = .ok key) :
    (encode pipeline config).map (·.config) = bandsToWire config.bands := by
  rw [encode, keyed]
  cases carried : bandsToWire config.bands <;> rfl

/-- A cell that can be addressed does not change what becomes of its bands. -/
theorem wireOfBands_eq {pipeline : Pipeline} {cell : CellId}
    (addressed : ∃ key, encodeKey pipeline cell = .ok key) (bands : List Band) :
    wireOfBands pipeline cell bands = bandsToWire bands := by
  obtain ⟨key, keyed⟩ := addressed
  rw [wireOfBands, bandsToWire_eq cell]
  cases made : CellConfig.ofBands cell bands with
  | error error => rfl
  | ok config =>
      have same : config.cell = cell := by
        match bands, made with
        | [], made => cases made; rfl
        | [_, _], made => cases made; rfl
      exact encode_config (same ▸ keyed)

theorem bandsToWire_perm {bands shuffled : List Band} (same : shuffled.Perm bands) :
    bandsToWire shuffled = bandsToWire bands := by
  -- Any cell will do.
  rw [bandsToWire_eq tiedCell, CellConfig.ofBands_perm same, ← bandsToWire_eq tiedCell]

/-! ## Agreement -/

theorem ofBands_eq_error_iff {cell : CellId} {bands : List Band} {found : Nat} :
    CellConfig.ofBands cell bands = .error ⟨found⟩ ↔
      bandsToWire bands = .error (.bandCount found) := by
  match bands with
  | [] => simp [CellConfig.ofBands, bandsToWire]
  | [_] => simp [CellConfig.ofBands, bandsToWire]
  | [first, second] =>
      rw [CellConfig.ofBands, bandsToWire, pairToWire_eq]
      cases tooLarge? (first.order second).1 (first.order second).2 <;> simp [Except.map]
  | _ :: _ :: _ :: _ => simp [CellConfig.ofBands, bandsToWire]

theorem bandsToWire_eq_error_iff {bands : List Band} {error : CodecError} :
    bandsToWire bands = .error error ↔
      (bands.length ≠ 0 ∧ bands.length ≠ 2 ∧ error = .bandCount bands.length) ∨
        ∃ first second number value, bands = [first, second] ∧
          tooLarge? (first.order second).1 (first.order second).2 = some (number, value) ∧
          error = .outOfRange number value.toNat := by
  match bands with
  | [] => simp [bandsToWire]
  | [_] => simp [bandsToWire, eq_comm]
  | [first, second] =>
      rw [bandsToWire, pairToWire_eq]
      constructor
      · intro failed
        cases excess : tooLarge? (first.order second).1 (first.order second).2 with
        | none =>
            rw [excess] at failed
            cases failed
        | some excessive =>
            rw [excess] at failed
            cases failed
            exact .inr ⟨first, second, excessive.1, excessive.2, rfl, excess, rfl⟩
      · rintro (⟨_, notPair, _⟩ | ⟨_, _, number, value, same, excess, rfl⟩)
        · exact absurd rfl notPair
        · cases same
          rw [excess]
          rfl
  | _ :: _ :: _ :: _ => simp [bandsToWire, eq_comm]

/-- What the wire carries for some bands is these bands, in order. -/
theorem pair_of_bandsToWire {bands : List Band} {numbers : Wire.Config}
    (carried : bandsToWire bands = .ok (some numbers)) :
    numbers.Unsigned ∧ numbers.InOrder ∧ [numbers.committed, numbers.peak].Perm bands := by
  match bands, carried with
  | [first, second], carried =>
      rw [bandsToWire] at carried
      cases pair : pairToWire (first.order second).1 (first.order second).2 with
      | error error =>
          rw [pair] at carried
          cases carried
      | ok written =>
          rw [pair] at carried
          cases carried
          obtain ⟨committed, peak, rfl⟩ := pairToWire_eq_ok_iff.mp pair
          have unsigned := Wire.Config.unsigned_ofBands ⟨committed, peak⟩
          exact ⟨unsigned, unsigned.inOrder_iff.mpr (Band.order_atMost first second),
            Band.order_perm first second⟩

theorem bandsToWire_eq_none_iff {bands : List Band} :
    bandsToWire bands = .ok none ↔ bands = [] := by
  match bands with
  | [] => simp [bandsToWire]
  | [_] => simp [bandsToWire]
  | [first, second] =>
      rw [bandsToWire]
      cases pairToWire (first.order second).1 (first.order second).2 <;> simp [Except.map]
  | _ :: _ :: _ :: _ => simp [bandsToWire]

/-- For a cell that can be addressed, bands go to the wire directly as through the cell. Both ways
refuse a number of bands other than none and two, and both name the first number in the order of
the wire that is too large. The order in which bands are given does not matter. What is written is
in order and has the bands that were given, and without bands nothing is written. -/
theorem band_paths_agree (pipeline : Pipeline) (cell : CellId) (bands : List Band)
    (named : ∃ array ∈ pipeline.arrays, array.id = cell.meter)
    (indexed : cell.index ≤ maxWireValue) :
    wireOfBands pipeline cell bands = bandsToWire bands ∧
      (∀ found, CellConfig.ofBands cell bands = .error ⟨found⟩ ↔
        bandsToWire bands = .error (.bandCount found)) ∧
      (∀ error, bandsToWire bands = .error error ↔
        (bands.length ≠ 0 ∧ bands.length ≠ 2 ∧ error = .bandCount bands.length) ∨
          ∃ first second number value, bands = [first, second] ∧
            tooLarge? (first.order second).1 (first.order second).2 = some (number, value) ∧
            error = .outOfRange number value.toNat) ∧
      (∀ shuffled : List Band, shuffled.Perm bands →
        bandsToWire shuffled = bandsToWire bands ∧
        CellConfig.ofBands cell shuffled = CellConfig.ofBands cell bands ∧
        wireOfBands pipeline cell shuffled = wireOfBands pipeline cell bands) ∧
      (bandsToWire bands = .ok none ↔ bands = []) ∧
      ∀ numbers, bandsToWire bands = .ok (some numbers) →
        numbers.Unsigned ∧ numbers.InOrder ∧
          [numbers.committed, numbers.peak].Perm bands := by
  have through := wireOfBands_eq (isOk_encodeKey_iff.mpr ⟨named, indexed⟩)
  refine ⟨through bands, fun _ => ofBands_eq_error_iff, fun _ => bandsToWire_eq_error_iff, ?_,
    bandsToWire_eq_none_iff, fun _ => pair_of_bandsToWire⟩
  intro shuffled same
  refine ⟨bandsToWire_perm same, CellConfig.ofBands_perm same cell, ?_⟩
  rw [through, through, bandsToWire_perm same]

/-- The second band is the committed one, so its burst is named before the rate of the first. -/
theorem paths_agree_on_excess :
    ((∃ array ∈ tied.arrays, array.id = tiedCell.meter) ∧ tiedCell.index ≤ maxWireValue) ∧
      wireOfBands tied tiedCell [⟨0x8000000000000000, 0⟩, ⟨1, 0x8000000000000001⟩] =
        .error (.outOfRange .cburst 0x8000000000000001) ∧
      wireOfBands tied tiedCell [⟨500, 20⟩, ⟨500, 5⟩] = .ok (some ⟨500, 5, 500, 20⟩) ∧
      wireOfBands tied tiedCell [⟨500, 5⟩, ⟨500, 20⟩] = .ok (some ⟨500, 5, 500, 20⟩) ∧
      wireOfBands tied tiedCell [⟨500, 5⟩] = .error (.bandCount 1) := by
  have named : ∃ array ∈ tied.arrays, array.id = tiedCell.meter := by decide
  have indexed : tiedCell.index ≤ maxWireValue := by decide
  have agree (bands : List Band) := band_paths_agree tied tiedCell bands named indexed
  refine ⟨⟨named, indexed⟩, ?_, ?_, ?_, ?_⟩
  · rw [(agree _).1]
    exact ((agree _).2.2.1 _).mpr (.inr ⟨_, _, .cburst, 0x8000000000000001, rfl, by decide, rfl⟩)
  · exact (agree _).1.trans (by decide)
  · rw [((agree [⟨500, 20⟩, ⟨500, 5⟩]).2.2.2.1 _ (.swap ..)).2.2, (agree _).1]
    rfl
  · rw [(agree _).1]
    exact ((agree _).2.2.1 _).mpr (.inl ⟨by decide, by decide, rfl⟩)

end Codec

end MeterSync
