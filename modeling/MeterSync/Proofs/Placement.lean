import Mathlib.Algebra.GroupWithZero.Nat
import MeterSync.Proofs.Coherence
import MeterSync.Proofs.Convergence

/-!
# Devices that hold what is meant

Devices that answer every call and have the arrays of their pipelines take every operation that can
be carried out. As long as nobody else changes them, each of their cells then holds what it is meant
to hold, and a reconciliation finds nothing to do.
-/

set_option autoImplicit false

namespace MeterSync

private theorem ofNat_lt_size {size : UInt64} {index : Nat} (inside : index < size.toNat) :
    UInt64.ofNat index < size := by
  rw [UInt64.lt_iff_toNat_lt, UInt64.toNat_ofNat_of_lt' (Nat.lt_trans inside size.toNat_lt_size)]
  exact inside

/-! ## The cells of a pipeline -/

namespace Pipeline

/-- Something for every cell of a pipeline, array by array and by ascending index. -/
def overCells {Image : Type} (pipeline : Pipeline) (image : MeterArray → Nat → Image) :
    List Image :=
  pipeline.arrays.flatMap fun array => (List.range array.size.toNat).map (image array)

/-- The cells of a pipeline, array by array and by ascending index. -/
def cells (pipeline : Pipeline) : List CellId :=
  pipeline.overCells fun array index => ⟨array.id, UInt64.ofNat index⟩

/-- The wire can carry every index of every array. -/
def Readable (pipeline : Pipeline) : Prop :=
  ∀ array ∈ pipeline.arrays, array.size ≤ Codec.maxWireValue

variable {pipeline : Pipeline}

theorem map_overCells {Image Target : Type} (change : Image → Target)
    (image : MeterArray → Nat → Image) :
    (pipeline.overCells image).map change =
      pipeline.overCells fun array index => change (image array index) := by
  simp only [overCells, List.map_flatMap, List.map_map]
  rfl

theorem overCells_congr {Image : Type} {first second : MeterArray → Nat → Image}
    (same : ∀ array ∈ pipeline.arrays, ∀ index < array.size.toNat,
      first array index = second array index) :
    pipeline.overCells first = pipeline.overCells second := by
  rw [overCells, overCells, List.flatMap_def, List.flatMap_def]
  congr 1
  refine List.map_congr_left fun array member => List.map_congr_left fun index inside => ?_
  exact same array member index (List.mem_range.mp inside)

theorem length_overCells {Image : Type} (image : MeterArray → Nat → Image) :
    (pipeline.overCells image).length = (pipeline.arrays.map (·.size.toNat)).sum := by
  simp only [overCells, List.length_flatMap, List.length_map, List.length_range]

theorem mem_cells {cell : CellId} :
    cell ∈ pipeline.cells ↔
      ∃ array ∈ pipeline.arrays, array.id = cell.meter ∧ cell.index < array.size := by
  simp only [cells, overCells, List.mem_flatMap, List.mem_map, List.mem_range]
  constructor
  · intro listed
    obtain ⟨array, member, index, inside, rfl⟩ := listed
    exact ⟨array, member, rfl, ofNat_lt_size inside⟩
  · intro held
    obtain ⟨array, member, named, inside⟩ := held
    refine ⟨array, member, cell.index.toNat, UInt64.lt_iff_toNat_lt.mp inside, ?_⟩
    rw [UInt64.ofNat_toNat, named]

theorem Readable.encodeKey (readable : pipeline.Readable) {array : MeterArray}
    (member : array ∈ pipeline.arrays) {cell : CellId} (named : array.id = cell.meter)
    (inside : cell.index < array.size) :
    Codec.encodeKey pipeline cell = .ok ⟨array.wireId, some cell.index.toInt64, none⟩ := by
  have fits : cell.index ≤ Codec.maxWireValue :=
    UInt64.le_trans (UInt64.le_of_lt inside) (readable array member)
  exact Codec.encodeKey_eq_ok_iff.mpr ⟨array, member, named, fits, rfl⟩

end Pipeline

/-! ## Devices that carry a pipeline -/

namespace Simulator

/-- A device that answers every call and has the arrays of a pipeline. -/
structure Carries (simulator : Simulator) (device : DeviceId) (pipeline : Pipeline) : Prop where
  writing : simulator.failWrites = false
  reading : simulator.failReads = false
  arrays : ∃ layout, simulator.layout device = some layout ∧
    ∀ array ∈ pipeline.arrays, layout array.wireId = some array.size

variable {simulator : Simulator} {device : DeviceId} {pipeline : Pipeline}

theorem Carries.alike {after : Simulator} (carries : simulator.Carries device pipeline)
    (alike : simulator.Alike after) : after.Carries device pipeline := by
  constructor
  · exact alike.failWrites.trans carries.writing
  · exact alike.failReads.trans carries.reading
  · rw [alike.layout]
    exact carries.arrays

theorem Carries.read (carries : simulator.Carries device pipeline)
    (readable : pipeline.Readable) :
    (simulator.read device pipeline.wireIds).1 =
      .ok (pipeline.overCells fun array index =>
        ⟨array.wireId, some (Int64.ofNat index),
          simulator.cells device array.wireId (Int64.ofNat index)⟩) := by
  obtain ⟨layout, laidOut, sizes⟩ := carries.arrays
  refine read_eq_ok_iff.mpr ⟨carries.reading, layout, laidOut, ?_, ?_⟩
  · intro wireId asked
    obtain ⟨array, member, rfl⟩ := List.mem_map.mp asked
    rw [sizes array member]
    rfl
  · rw [addresses, Pipeline.wireIds, List.flatMap_map, List.map_flatMap, Pipeline.overCells,
      List.flatMap_def, List.flatMap_def]
    congr 1
    refine List.map_congr_left fun array member => ?_
    have size : array.size.toInt64.toInt.toNat = array.size.toNat := by
      rw [Codec.toInt_toInt64 (readable array member), Int.toNat_natCast]
    rw [sizes array member, Option.elim, SimulatedDevice.indices, size, List.map_map, List.map_map]
    rfl

theorem Carries.write (carries : simulator.Carries device pipeline) {array : MeterArray}
    (member : array ∈ pipeline.arrays) {index : UInt64} (fits : index ≤ Codec.maxWireValue)
    (inside : index < array.size) (config : Option Wire.Config) :
    (simulator.write device [⟨array.wireId, some index.toInt64, config⟩]).1 = .ok [none] := by
  obtain ⟨layout, laidOut, sizes⟩ := carries.arrays
  rw [Simulator.layout, Option.map_eq_some_iff] at laidOut
  obtain ⟨arrays, known, rfl⟩ := laidOut
  have aimed : arrays.target ⟨array.wireId, some index.toInt64, config⟩ =
      .ok (array.wireId, index.toInt64) := by
    refine SimulatedDevice.target_eq_ok_iff.mpr
      ⟨array.size, _, sizes array member, rfl, ?_, ?_, rfl⟩
    · rw [Codec.toInt_toInt64 fits]
      exact Int.natCast_nonneg _
    · rw [Codec.toInt_toInt64 fits]
      exact Int.ofNat_lt.mpr (UInt64.lt_iff_toNat_lt.mp inside)
  simp only [Simulator.write, carries.writing, known, SimulatedDevice.writeEntries,
    SimulatedDevice.writeEntry_eq, aimed, Bool.false_eq_true, if_false]

theorem Carries.submit (carries : simulator.Carries device pipeline)
    (readable : pipeline.Readable) {config : CellConfig} (regular : config.state.Regular)
    (member : config.cell ∈ pipeline.cells) :
    (Client.submit pipeline ⟨device, [config]⟩ simulator).1.accepted = [config] := by
  obtain ⟨array, arrayMember, named, inside⟩ := Pipeline.mem_cells.mp member
  have key := readable.encodeKey arrayMember named inside
  have encoded : Codec.encode pipeline config =
      .ok ⟨array.wireId, some config.cell.index.toInt64, config.state.toWire⟩ :=
    (Codec.encode_eq_ok_iff regular).mpr ⟨_, key, rfl⟩
  have allEncoded : Codec.encodeAll pipeline [config] =
      .ok [⟨array.wireId, some config.cell.index.toInt64, config.state.toWire⟩] := by
    rw [Codec.encodeAll_eq_ok_iff, List.map_singleton, encoded, List.map_singleton]
  have fits : config.cell.index ≤ Codec.maxWireValue :=
    UInt64.le_trans (UInt64.le_of_lt inside) (readable array arrayMember)
  have answer : (Client.write simulator device
      [⟨array.wireId, some config.cell.index.toInt64, config.state.toWire⟩]).1 = .ok [none] :=
    carries.write arrayMember fits inside config.state.toWire
  rw [Client.submit_of_encodeAll allEncoded, answer]
  rfl

end Simulator

/-! ## What cells are meant to hold -/

def IntentStore.meant (intents : IntentStore) (handle : CellHandle) : CellConfig :=
  (intents.lookup handle).elim (.reset handle.cell) (·.config)

theorem IntentStore.meant_settled {pipeline : Pipeline} {operation : Operation}
    {config : CellConfig} (requested : pipeline.requested operation = .ok config)
    (intents : IntentStore) (handle : CellHandle) :
    (intents.settled operation config).meant handle =
      if operation.meter.handle = handle then config else intents.meant handle := by
  rw [meant, lookup_settled]
  by_cases here : operation.meter.handle = handle
  · rw [if_pos here, if_pos here]
    by_cases removes : operation.kind = .remove
    · rw [Pipeline.requested.eq_def, removes] at requested
      rw [if_pos removes, Option.elim_none, ← here]
      exact Except.ok.inj requested
    · rw [if_neg removes]
      rfl
  · rw [if_neg here, if_neg here]
    rfl

/-- A cell holds a configuration of its own that the wire can carry. -/
structure CellView.Placed (cells : CellView) (pipeline : Pipeline) (device : DeviceId)
    (cell : CellId) (config : CellConfig) : Prop where
  cell_eq : config.cell = cell
  regular : config.state.Regular
  shows : cells.Shows pipeline device config

theorem CellView.Placed.decode? {cells : CellView} {pipeline : Pipeline} {device : DeviceId}
    {cell : CellId} {config : CellConfig} (placed : cells.Placed pipeline device cell config)
    {wireId : UInt32} {index : Int64}
    (key : Codec.encodeKey pipeline cell = .ok ⟨wireId, some index, none⟩) :
    Codec.decode? pipeline ⟨wireId, some index, cells device wireId index⟩ = some config := by
  obtain ⟨sameCell, regular, _, _, encoded, given, held⟩ := placed
  have decoded := Codec.decode_of_encode regular encoded
  obtain ⟨_, ownKey, rfl⟩ := (Codec.encode_eq_ok_iff regular).mp encoded
  rw [sameCell, key] at ownKey
  cases ownKey
  cases given
  rw [held]
  exact Codec.decode?_eq_some_iff.mpr decoded

/-- What is written to one cell does not show in another. -/
theorem CellView.Placed.submit {simulator : Simulator} {pipeline : Pipeline} {device : DeviceId}
    {cell : CellId} {config : CellConfig}
    (placed : simulator.cells.Placed pipeline device cell config) {target : DeviceId}
    {targetPipeline : Pipeline} (same : device = target → targetPipeline = pipeline)
    {written : CellConfig} (regular : written.state.Regular)
    (apart : written.handle target ≠ ⟨device, cell⟩) :
    (Client.submit targetPipeline ⟨target, [written]⟩ simulator).2.cells.Placed pipeline device
      cell config := by
  refine Client.submit_induction
    (motive := fun _ cells => cells.Placed pipeline device cell config) placed ?_
  intro _ _ _ entry index member encoded given held
  cases List.mem_singleton.mp member
  refine ⟨placed.cell_eq, placed.regular, ?_⟩
  by_cases sameDevice : device = target
  · subst sameDevice
    cases same rfl
    refine held.shows.set_cell placed.regular regular ?_ encoded given
    intro sameCell
    rw [placed.cell_eq] at sameCell
    rw [CellConfig.handle, sameCell] at apart
    exact apart rfl
  · exact held.shows.set_device sameDevice entry.meterId index entry.config

namespace Coordinator

/-- Every device answers and has the arrays of its pipeline, and each of its cells holds what it is
meant to hold. -/
structure InPlace (coordinator : Coordinator ShadowTable Simulator) : Prop where
  coherent : coordinator.Coherent
  kept : coordinator.Kept fun _ => false
  readable : ∀ {device pipeline}, coordinator.pipeline? device = some pipeline →
    pipeline.Readable
  carries : ∀ {device pipeline}, coordinator.pipeline? device = some pipeline →
    coordinator.connection.Carries device pipeline
  placed : ∀ {device pipeline}, coordinator.pipeline? device = some pipeline →
    ∀ cell ∈ pipeline.cells, coordinator.connection.cells.Placed pipeline device cell
      (coordinator.intents.meant ⟨device, cell⟩)

variable {coordinator after : Coordinator ShadowTable Simulator}

/-- What an operation asks for is written where it can be, and nothing else moves. -/
theorem InPlace.placed_submit (inPlace : coordinator.InPlace) {operation : Operation}
    {own : Pipeline} (ownFound : coordinator.pipeline? operation.meter.device = some own)
    {config : CellConfig} (requested : own.requested operation = .ok config)
    {device : DeviceId} {pipeline : Pipeline}
    (found : coordinator.pipeline? device = some pipeline) {cell : CellId}
    (member : cell ∈ pipeline.cells) :
    (Client.submit own ⟨operation.meter.device, [config]⟩
        coordinator.connection).2.cells.Placed pipeline device cell
      ((coordinator.intents.settled operation config).meant ⟨device, cell⟩) := by
  obtain ⟨sameCell, regular⟩ := Pipeline.requested_spec requested
  rw [IntentStore.meant_settled requested]
  split
  · -- The device has the cell, so it takes the write.
    rename_i here
    cases here
    cases ownFound.symm.trans found
    rw [← sameCell] at member
    have taken := (inPlace.carries found).submit (inPlace.readable found) regular member
    refine ⟨sameCell, regular, submit_shows ?_⟩
    rw [taken]
    exact List.cons_ne_nil config []
  · rename_i elsewhere
    have before := inPlace.placed found cell member
    refine before.submit ?_ regular ?_
    · intro sameDevice
      rw [sameDevice] at found
      exact Option.some.inj (ownFound.symm.trans found)
    · rw [Pipeline.requested_handle requested]
      exact elsewhere

theorem InPlace.placed_process (inPlace : coordinator.InPlace) {operation : Operation}
    {result : Except OperationError Unit} (ended : Processed coordinator operation result after)
    {device : DeviceId} {pipeline : Pipeline}
    (found : coordinator.pipeline? device = some pipeline) {cell : CellId}
    (member : cell ∈ pipeline.cells) :
    after.connection.cells.Placed pipeline device cell (after.intents.meant ⟨device, cell⟩) := by
  have before := inPlace.placed found cell member
  cases ended with
  | unknown _ => exact before
  | unresolved _ _ => exact before
  | @skipped _ config _ requested shown =>
      change coordinator.connection.cells.Placed pipeline device cell
        ((coordinator.intents.settled operation config).meant ⟨device, cell⟩)
      rw [IntentStore.meant_settled requested]
      split
      · -- Nothing was written, but the shadow agrees with the device.
        rename_i here
        cases here
        obtain ⟨sameCell, regular⟩ := Pipeline.requested_spec requested
        obtain ⟨_, sameFound, _, _, shows⟩ := inPlace.coherent.shown _ _ shown
        cases sameFound.symm.trans found
        exact ⟨sameCell, regular, shows⟩
      · exact before
  | refused ownFound requested _ submitted _ _ =>
      have placed := inPlace.placed_submit ownFound requested found member
      rw [submitted] at placed
      exact placed
  | written ownFound requested _ submitted _ =>
      have placed := inPlace.placed_submit ownFound requested found member
      rw [submitted] at placed
      exact placed

theorem InPlace.process (inPlace : coordinator.InPlace) {operation : Operation}
    {result : Except OperationError Unit}
    (ended : Processed coordinator operation result after) : after.InPlace := by
  have known {device : DeviceId} {pipeline : Pipeline}
      (found : after.pipeline? device = some pipeline) :
      coordinator.pipeline? device = some pipeline :=
    (pipeline?_congr ended.pipelines device).symm.trans found
  constructor
  · exact inPlace.coherent.process ended
  · exact inPlace.kept.process ended
  · exact fun found => inPlace.readable (known found)
  · exact fun found => (inPlace.carries (known found)).alike ended.alike
  · exact fun found cell member => inPlace.placed_process ended (known found) member

theorem InPlace.performAll (inPlace : coordinator.InPlace) (operations : List Operation) :
    (coordinator.performAll operations).2.InPlace := by
  induction operations generalizing coordinator with
  | nil => exact inPlace
  | cons operation operations ih => exact ih (inPlace.process (coordinator.processed operation))

/-! ## Reconciling -/

/-- What is reported of a device whose cells hold what they are meant to hold. -/
def placedReport (intents : IntentStore) (device : DeviceId) (pipeline : Pipeline) : Report where
  meters := (pipeline.cells.filter fun cell => (intents.lookup ⟨device, cell⟩).isSome).map
    fun cell => (intents.meant ⟨device, cell⟩).observedMeter device
  cellsRead := (pipeline.arrays.map (·.size.toNat)).sum
  reset := 0
  resetFailed := 0
  undecodable := 0

/-- A read finds at every cell what the cell is meant to hold. -/
theorem InPlace.read (inPlace : coordinator.InPlace) {device : DeviceId} {pipeline : Pipeline}
    (found : coordinator.pipeline? device = some pipeline) :
    ∃ entries, (coordinator.connection.read device pipeline.wireIds).1 = .ok entries ∧
      entries.map (Codec.decode? pipeline) = pipeline.cells.map fun cell =>
        some (coordinator.intents.meant ⟨device, cell⟩) := by
  refine ⟨_, (inPlace.carries found).read (inPlace.readable found), ?_⟩
  rw [Pipeline.map_overCells, Pipeline.cells, Pipeline.map_overCells]
  refine Pipeline.overCells_congr fun array member index inside => ?_
  have below := ofNat_lt_size inside
  have listed : ⟨array.id, UInt64.ofNat index⟩ ∈ pipeline.cells :=
    Pipeline.mem_cells.mpr ⟨array, member, rfl, below⟩
  have key : Codec.encodeKey pipeline ⟨array.id, UInt64.ofNat index⟩ =
      .ok ⟨array.wireId, some (Int64.ofNat index), none⟩ :=
    (inPlace.readable found).encodeKey member rfl below
  exact (inPlace.placed found _ listed).decode? key

section Meant

variable {intents : IntentStore} {device : DeviceId} {cell : CellId}

theorem callsForReset_meant (sameCell : (intents.meant ⟨device, cell⟩).cell = cell) :
    callsForReset (fun _ => false) intents device (intents.meant ⟨device, cell⟩) = false := by
  rw [callsForReset, CellConfig.handle, sameCell, IntentStore.meant]
  cases intents.lookup ⟨device, cell⟩ with
  | none => rfl
  | some intent => simp

theorem asIntended_meant (sameCell : (intents.meant ⟨device, cell⟩).cell = cell) :
    asIntended (fun _ => false) intents device (intents.meant ⟨device, cell⟩) =
      (intents.lookup ⟨device, cell⟩).isSome := by
  rw [asIntended, CellConfig.handle, sameCell, IntentStore.meant]
  cases intents.lookup ⟨device, cell⟩ with
  | none => rfl
  | some intent => simp

end Meant

theorem InPlace.quietReport_eq (inPlace : coordinator.InPlace) {device : DeviceId}
    {pipeline : Pipeline} (found : coordinator.pipeline? device = some pipeline)
    {entries : List Wire.Entry}
    (shown : entries.map (Codec.decode? pipeline) = pipeline.cells.map fun cell =>
      some (coordinator.intents.meant ⟨device, cell⟩)) :
    quietReport (fun _ => false) coordinator.intents device pipeline entries =
      placedReport coordinator.intents device pipeline := by
  have decoded : entries.filterMap (Codec.decode? pipeline) =
      pipeline.cells.map fun cell => coordinator.intents.meant ⟨device, cell⟩ :=
    (filterMap_eq_of_map_eq shown).trans (congrFun List.filterMap_eq_map' pipeline.cells)
  have length : entries.length = (pipeline.arrays.map (·.size.toNat)).sum := by
    have lengths := congrArg List.length shown
    rw [List.length_map, List.length_map, Pipeline.cells, Pipeline.length_overCells] at lengths
    exact lengths
  have intended := List.filter_congr fun cell member =>
    asIntended_meant (inPlace.placed found cell member).cell_eq
  rw [quietReport, placedReport, decoded, length, List.filter_map, List.map_map, ← intended]
  rfl

/-- A reconciliation finds every cell as it is meant to be, and changes nothing but what is
counted and shown. -/
theorem InPlace.reconcile (inPlace : coordinator.InPlace) {device : DeviceId}
    {pipeline : Pipeline} (found : coordinator.pipeline? device = some pipeline) :
    (coordinator.reconcile device).1 = placedReport coordinator.intents device pipeline ∧
      (coordinator.reconcile device).2.InPlace ∧
      (coordinator.reconcile device).2.stats =
        { coordinator.stats with reconciliations := coordinator.stats.reconciliations + 1 } := by
  have ended := coordinator.reconciled device
  obtain ⟨samePipelines, sameIntents⟩ := ended.frame
  obtain ⟨entries, answered, shown⟩ := inPlace.read found
  have read : Client.read coordinator.connection device pipeline.wireIds =
      (.ok entries, (coordinator.connection.read device pipeline.wireIds).2) :=
    Prod.ext answered rfl
  have unambiguous := Simulator.read_unambiguous answered
  have quiet := reconcile_quiet inPlace.kept found read unambiguous fun entry member => by
    have listed := List.mem_map_of_mem (f := Codec.decode? pipeline) member
    rw [shown] at listed
    obtain ⟨cell, cellMember, decoded⟩ := List.mem_map.mp listed
    exact ⟨_, decoded.symm, callsForReset_meant (inPlace.placed found cell cellMember).cell_eq⟩
  have sameCells : (coordinator.reconcile device).2.connection.cells =
      coordinator.connection.cells := by
    rw [quiet]
    exact Simulator.cells_of_read read
  have known {other : DeviceId} {otherPipeline : Pipeline}
      (otherFound : (coordinator.reconcile device).2.pipeline? other = some otherPipeline) :
      coordinator.pipeline? other = some otherPipeline :=
    (pipeline?_congr samePipelines other).symm.trans otherFound
  refine ⟨?_, ?_, ?_⟩
  · rw [quiet]
    exact inPlace.quietReport_eq found shown
  · constructor
    · exact inPlace.coherent.reconcile ended
    · exact inPlace.kept.reconcile ended
    · exact fun otherFound => inPlace.readable (known otherFound)
    · exact fun otherFound => (inPlace.carries (known otherFound)).alike ended.alike
    · intro other otherPipeline otherFound cell member
      rw [sameCells, sameIntents]
      exact inPlace.placed (known otherFound) cell member
  · rw [quiet]
    rfl

theorem InPlace.reconcileAll (inPlace : coordinator.InPlace) {devices : List DeviceId}
    (known : ∀ device ∈ devices, ∃ pipeline, coordinator.pipeline? device = some pipeline) :
    (∀ entry ∈ (coordinator.reconcileAll devices).1, ∃ pipeline,
        coordinator.pipeline? entry.1 = some pipeline ∧
          entry.2 = placedReport coordinator.intents entry.1 pipeline) ∧
      (coordinator.reconcileAll devices).2.stats =
        { coordinator.stats with
          reconciliations := coordinator.stats.reconciliations + devices.length } := by
  induction devices generalizing coordinator with
  | nil => exact ⟨nofun, rfl⟩
  | cons device devices ih =>
      obtain ⟨⟨pipeline, found⟩, others⟩ := List.forall_mem_cons.mp known
      obtain ⟨report, still, counted⟩ := inPlace.reconcile found
      obtain ⟨samePipelines, sameIntents⟩ := (coordinator.reconciled device).frame
      have samePipeline := pipeline?_congr samePipelines
      obtain ⟨later, total⟩ := ih still fun other member => by
        rw [samePipeline]
        exact others other member
      constructor
      · rw [Coordinator.reconcileAll, List.forall_mem_cons]
        refine ⟨⟨pipeline, found, report⟩, fun entry member => ?_⟩
        have shown := later entry member
        rw [samePipeline, sameIntents] at shown
        exact shown
      · rw [Coordinator.reconcileAll, total, counted, List.length_cons, Nat.add_assoc,
          Nat.add_comm 1]

end Coordinator

end MeterSync
