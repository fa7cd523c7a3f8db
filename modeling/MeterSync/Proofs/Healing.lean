import MeterSync.Proofs.Coordinator.Run

/-!
# What a reconciliation heals

A reconciliation that reads a simulated device leaves each cell that it read in one of three ways.
The cell is cleared, or it keeps bands that the shadow then shows, or it keeps numbers that do not
decode because its reset was refused. This holds in every state, however it was reached.
-/

set_option autoImplicit false

namespace MeterSync

/-- Every entry that a read finds addresses a cell of the pipeline. -/
theorem Simulator.decodeKey_of_read {simulator after : Simulator} {device : DeviceId}
    {pipeline : Pipeline} {entries : List Wire.Entry}
    (answered : Client.read simulator device pipeline.wireIds = (.ok entries, after))
    {entry : Wire.Entry} (member : entry ∈ entries) :
    ∃ cell index, Codec.decodeKey pipeline entry = .ok cell ∧ entry.index = some index ∧
      entry.config = simulator.cells device entry.meterId index := by
  obtain ⟨asked, index, given, unsigned, held⟩ := mem_read answered member
  obtain ⟨array, arrayMember, numbered⟩ := List.mem_map.mp asked
  exact ⟨_, index,
    Codec.decodeKey_eq_ok_iff.mpr ⟨array, arrayMember, numbered, index, given, unsigned, rfl⟩,
    given, held⟩

/-- Entries that a read finds for one cell are one and the same. -/
theorem Simulator.read_unique {simulator after : Simulator} {device : DeviceId}
    {pipeline : Pipeline} {entries : List Wire.Entry}
    (answered : Client.read simulator device pipeline.wireIds = (.ok entries, after))
    {first second : Wire.Entry} (firstMember : first ∈ entries) (secondMember : second ∈ entries)
    {cell : CellId} (firstKey : Codec.decodeKey pipeline first = .ok cell)
    (secondKey : Codec.decodeKey pipeline second = .ok cell) : first = second := by
  obtain ⟨_, index, given, _, held⟩ := mem_read answered firstMember
  obtain ⟨_, otherIndex, otherGiven, _, otherHeld⟩ := mem_read answered secondMember
  obtain ⟨sameId, sameIndex⟩ := Codec.decodeKey_injective firstKey secondKey
  rw [given, otherGiven] at sameIndex
  cases sameIndex
  have sameConfig : first.config = second.config := by rw [held, otherHeld, sameId]
  cases first
  cases second
  simp_all

namespace Coordinator

section Resets

variable {Shadow : Type} [ShadowStore Shadow] (coordinator : Coordinator Shadow Simulator)
  {pipeline : Pipeline} {batch : WriteBatch}

/-- A batch of resets clears the cells whose resets were taken and leaves all others alone. -/
theorem cells_correct (resets : ∀ config ∈ batch.configs, config = .reset config.cell)
    {entry : Wire.Entry} {cell : CellId} {index : Int64}
    (key : Codec.decodeKey pipeline entry = .ok cell) (given : entry.index = some index) :
    (coordinator.correct pipeline batch).2.connection.cells batch.device entry.meterId index =
      if .reset cell ∈ (coordinator.correct pipeline batch).1.accepted then none
      else coordinator.connection.cells batch.device entry.meterId index := by
  refine correct_induction (motive := fun taken cells =>
    cells batch.device entry.meterId index = if .reset cell ∈ taken then none
      else coordinator.connection.cells batch.device entry.meterId index) (by simp) ?_
  intro taken cells config written writtenIndex member encoded writtenGiven held
  rw [resets config member, Codec.encode_reset] at encoded
  have writtenKey := Codec.decodeKey_of_encodeKey encoded
  by_cases same : config.cell = cell
  · rw [same] at writtenKey
    obtain ⟨sameId, sameIndex⟩ := Codec.decodeKey_injective writtenKey key
    rw [writtenGiven, given] at sameIndex
    cases sameIndex
    have here : CellConfig.reset cell ∈ taken ++ [config] := by
      rw [resets config member, same]
      simp
    rw [if_pos here, ← sameId, CellView.set_same, Codec.encodeKey_config encoded]
  · have apart : ¬ (entry.meterId = written.meterId ∧ index = writtenIndex) := by
      intro keys
      rcases keys with ⟨sameId, rfl⟩
      have sameKey := Codec.decodeKey_congr sameId (given.trans writtenGiven.symm) ▸ key
      exact same (Except.ok.inj (writtenKey.symm.trans sameKey))
    have absent : CellConfig.reset cell ≠ config := by
      intro equal
      exact same (congrArg CellConfig.cell equal).symm
    simpa [CellView.set, apart, absent] using held

/-- The shadow shows the resets that were taken, of the cells that it does not lose. -/
theorem find?_correct [LawfulShadow Shadow] (pipeline : Pipeline)
    (resets : ∀ config ∈ batch.configs, config = .reset config.cell) {cell : CellId}
    (kept : LawfulShadow.loses coordinator.shadow ⟨batch.device, cell⟩ = false) :
    ShadowStore.find? (coordinator.correct pipeline batch).2.shadow ⟨batch.device, cell⟩ =
      if .reset cell ∈ (coordinator.correct pipeline batch).1.accepted then some (.reset cell)
      else ShadowStore.find? coordinator.shadow ⟨batch.device, cell⟩ := by
  rw [(coordinator.correct_frame pipeline batch).2.2]
  exact ShadowStore.find?_record_resets (coordinator.correct_resets pipeline resets) kept

end Resets

section Recorded

variable {Shadow : Type} [ShadowStore Shadow] [LawfulShadow Shadow]

/-- What a reconciliation leaves of one cell that its read covered. -/
inductive Covered (before after : Coordinator Shadow Simulator) (report : Report)
    (pipeline : Pipeline) (handle : CellHandle) (entry : Wire.Entry) :
    Option Wire.Config → Prop where
  | cleared :
      ShadowStore.find? after.shadow handle = some (.reset handle.cell) →
      Covered before after report pipeline handle entry none
  | kept {config : CellConfig} :
      Codec.decode pipeline entry = .ok config →
      ShadowStore.find? after.shadow handle = some config →
      (report.resetFailed = 0 → config = .reset handle.cell ∨
        ∃ intent, before.intents.lookup handle = some intent ∧ intent.config = config) →
      Covered before after report pipeline handle entry entry.config
  | stuck :
      (∀ config, Codec.decode pipeline entry ≠ .ok config) →
      ShadowStore.find? after.shadow handle = ShadowStore.find? before.shadow handle →
      report.resetFailed ≠ 0 →
      Covered before after report pipeline handle entry entry.config

theorem Reconciled.covered {before after : Coordinator Shadow Simulator} {device : DeviceId}
    {report : Report} (ended : Reconciled before device report after) {pipeline : Pipeline}
    (found : before.pipeline? device = some pipeline) {entries : List Wire.Entry}
    (answered : (Client.read before.connection device pipeline.wireIds).1 = .ok entries)
    {entry : Wire.Entry} (member : entry ∈ entries) {cell : CellId} {index : Int64}
    (key : Codec.decodeKey pipeline entry = .ok cell) (given : entry.index = some index)
    (kept : LawfulShadow.loses before.shadow ⟨device, cell⟩ = false) :
    Covered before after report pipeline ⟨device, cell⟩ entry
      (after.connection.cells device entry.meterId index) := by
  obtain ⟨connection, seen, batch, read, seenEq, batchEq, rfl, rfl⟩ := ended.of_read found answered
  obtain ⟨_, ownIndex, _, ownGiven, held⟩ := Simulator.decodeKey_of_read read member
  cases given.symm.trans ownGiven
  have unique : ∀ other ∈ entries, Codec.decodeKey pipeline other = .ok cell →
      other = entry := fun other otherMember otherKey =>
    Simulator.read_unique read otherMember member otherKey key
  have resets : ∀ config ∈ batch.configs, config = .reset config.cell := by
    rw [batchEq]
    exact fun _ => corrections_reset
  have sameDevice : batch.device = device := congrArg WriteBatch.device batchEq
  have seenCells : seen.connection.cells = before.connection.cells := by
    rw [seenEq]
    exact Simulator.cells_of_read read
  have seenKept : LawfulShadow.loses seen.shadow ⟨batch.device, cell⟩ = false := by
    rw [seenEq, synced, ShadowStore.loses_record, sameDevice]
    exact kept
  have seenShown : ShadowStore.find? seen.shadow ⟨device, cell⟩ =
      (CellConfig.latest? (Readout.ofEntries pipeline entries).configs cell).or
        (ShadowStore.find? before.shadow ⟨device, cell⟩) := by
    rw [seenEq]
    exact ShadowStore.find?_record_kept kept _
  -- Whether a reset of the cell was taken decides what it holds and what the shadow shows.
  have cells := seen.cells_correct resets key given
  have shown := seen.find?_correct pipeline resets seenKept
  rw [sameDevice] at cells shown
  rw [cells, seenCells, ← held]
  by_cases taken : CellConfig.reset cell ∈ (seen.correct pipeline batch).1.accepted
  · rw [if_pos taken] at shown ⊢
    exact .cleared shown
  · rw [if_neg taken, seenShown] at shown
    rw [if_neg taken]
    cases decoded : Codec.decode pipeline entry with
    | error error =>
        have undecodable (config : CellConfig) : Codec.decode pipeline entry ≠ .ok config := by
          intro same
          rw [decoded] at same
          cases same
        rw [Readout.latest?_of_undecodable undecodable unique, Option.none_or] at shown
        refine .stuck undecodable shown fun clean => taken ?_
        rw [correct_accepted clean, batchEq]
        exact mem_corrections.mpr (.inr
          ⟨cell, Readout.mem_undecodable.mpr ⟨entry, member, key, undecodable⟩, rfl⟩)
    | ok config =>
        cases Except.ok.inj (key.symm.trans (Codec.decodeKey_of_decode decoded))
        have last := Readout.latest?_of_decode decoded member unique
        rw [last, Option.some_or] at shown seenShown
        refine .kept decoded shown fun clean => ?_
        have spared : CellConfig.reset config.cell ∉
            (seen.corrections device (.ofEntries pipeline entries)).configs := by
          rw [← batchEq, ← correct_accepted clean]
          exact taken
        have seenConfig := Readout.mem_configs.mpr ⟨entry, member, decoded⟩
        obtain intended | default :=
          of_correction?_eq_none (correction?_eq_none seenConfig spared) seenShown
        · rw [seenEq] at intended
          exact .inr intended
        · exact .inl default

end Recorded

section Healing

variable {before : Coordinator ShadowTable Simulator} {device : DeviceId} {pipeline : Pipeline}
  {entries : List Wire.Entry}

/-- The cells that a read covered, each with what a reconciliation leaves of it. -/
private theorem covered_of_read (found : before.pipelines.get? device = some pipeline)
    (answered : (before.connection.read device pipeline.wireIds).1 = .ok entries)
    {entry : Wire.Entry} (member : entry ∈ entries) :
    ∃ cell index, Codec.decodeKey pipeline entry = .ok cell ∧ entry.index = some index ∧
      Covered before (before.reconcile device).2 (before.reconcile device).1 pipeline
        ⟨device, cell⟩ entry
        ((before.reconcile device).2.connection.cell? device entry.meterId index) := by
  have read : Client.read before.connection device pipeline.wireIds =
      (.ok entries, (before.connection.read device pipeline.wireIds).2) := Prod.ext answered rfl
  obtain ⟨cell, index, key, given, _⟩ := Simulator.decodeKey_of_read read member
  exact ⟨cell, index, key, given,
    (before.reconciled device).covered found answered member key given rfl⟩

/-- The cell of an entry that was read is empty or holds its intent: the numbers as they are
encoded, or, if the device had them so, with committed and peak exchanged. -/
def Healed (after : Coordinator ShadowTable Simulator) (pipeline : Pipeline) (device : DeviceId)
    (entry : Wire.Entry) : Prop :=
  ∃ cell index, Codec.decodeKey pipeline entry = .ok cell ∧ entry.index = some index ∧
    (after.connection.cell? device entry.meterId index = none ∨
      ∃ intent numbers, after.intents.lookup ⟨device, cell⟩ = some intent ∧
        Codec.encode pipeline intent.config = .ok { entry with config := some numbers } ∧
        (after.connection.cell? device entry.meterId index = some numbers ∨
          entry.config = some numbers.exchanged ∧
            after.connection.cell? device entry.meterId index = some numbers.exchanged))

/-- If no reset failed, every cell that was read is healed. -/
theorem reconcile_heals_device (found : before.pipelines.get? device = some pipeline)
    (answered : (before.connection.read device pipeline.wireIds).1 = .ok entries)
    (clean : (before.reconcile device).1.resetFailed = 0) :
    ∀ entry ∈ entries, (before.reconcile device).2.Healed pipeline device entry := by
  intro entry member
  obtain ⟨cell, index, key, given, covered⟩ := covered_of_read found answered member
  refine ⟨cell, index, key, given, ?_⟩
  generalize (before.reconcile device).2.connection.cell? device entry.meterId index = now
    at covered ⊢
  cases covered with
  | cleared _ => exact .inl rfl
  | stuck _ _ failed => exact absurd clean failed
  | @kept config decoded _ settled =>
      have encoded := Codec.encode_of_decode decoded
      obtain ⟨_, _, unsigned, rfl⟩ := Codec.decode_eq_ok_iff.mp decoded
      cases held : entry.config with
      | none => exact .inl rfl
      | some wire =>
          rw [held] at encoded settled
          rw [CellState.toWire_ofWire_some (unsigned wire held)] at encoded
          obtain default | ⟨intent, known, same⟩ := settled clean
          · cases congrArg CellConfig.state default
          · rw [(before.reconciled device).frame.2]
            rw [← same] at encoded
            refine .inr ⟨intent, _, known, encoded, ?_⟩
            by_cases ordered : wire.InOrder
            · rw [if_pos ordered]
              exact .inl rfl
            · rw [if_neg ordered]
              exact .inr ⟨rfl, rfl⟩

/-- The device has the numbers of the addition, with committed and peak exchanged. -/
def exchangedSample : Coordinator ShadowTable Simulator :=
  Sample.start.run [.request (.process Sample.addition),
    .inject Sample.device 5 0 (some Sample.numbers.exchanged)]

/-- Exchanged numbers are read as the intent, so they stay on the device although no reset
failed. -/
theorem exchanged_numbers_stay :
    (exchangedSample.connection.read Sample.device Sample.pipeline.wireIds).1 =
        .ok [⟨5, some 0, some Sample.numbers.exchanged⟩] ∧
      (exchangedSample.reconcile Sample.device).1.resetFailed = 0 ∧
      (exchangedSample.reconcile Sample.device).2.connection.cell? Sample.device 5 0 =
        some Sample.numbers.exchanged ∧
      ((exchangedSample.reconcile Sample.device).2.intents.lookup Sample.handle).map
          (fun intent => Codec.encode Sample.pipeline intent.config) =
        some (.ok ⟨5, some 0, some Sample.numbers⟩) ∧
      Sample.numbers.exchanged ≠ Sample.numbers := by
  decide +kernel

theorem reconcile_heals_exchanged :
    (exchangedSample.connection.read Sample.device Sample.pipeline.wireIds).1 =
        .ok [⟨5, some 0, some Sample.numbers.exchanged⟩] ∧
      (exchangedSample.reconcile Sample.device).2.Healed Sample.pipeline Sample.device
        ⟨5, some 0, some Sample.numbers.exchanged⟩ := by
  have answered : (exchangedSample.connection.read Sample.device Sample.pipeline.wireIds).1 =
      .ok [⟨5, some 0, some Sample.numbers.exchanged⟩] := by decide +kernel
  exact ⟨answered, reconcile_heals_device (by decide +kernel) answered (by decide +kernel) _
    (List.mem_singleton_self _)⟩

/-- The shadow shows of the cell of an entry that was read what the cell decodes to. A cell that
still does not decode was read so and could not be reset, and keeps the entry it had. -/
def Repaired (before after : Coordinator ShadowTable Simulator) (report : Report)
    (pipeline : Pipeline) (device : DeviceId) (entry : Wire.Entry) : Prop :=
  ∃ cell index, Codec.decodeKey pipeline entry = .ok cell ∧ entry.index = some index ∧
    match Codec.decode pipeline
        { entry with config := after.connection.cell? device entry.meterId index } with
    | .ok config => ShadowStore.find? after.shadow ⟨device, cell⟩ = some config
    | .error _ =>
      ShadowStore.find? after.shadow ⟨device, cell⟩ =
          ShadowStore.find? before.shadow ⟨device, cell⟩ ∧
        after.connection.cell? device entry.meterId index = entry.config ∧
        report.resetFailed ≠ 0

/-- Whatever becomes of the resets, the shadow shows every cell that was read as it then decodes.
Only a cell that still does not decode, since its reset was refused, keeps the entry it had. -/
theorem reconcile_repairs_shadow (found : before.pipelines.get? device = some pipeline)
    (answered : (before.connection.read device pipeline.wireIds).1 = .ok entries) :
    ∀ entry ∈ entries,
      Repaired before (before.reconcile device).2 (before.reconcile device).1 pipeline device
        entry := by
  intro entry member
  obtain ⟨cell, index, key, given, covered⟩ := covered_of_read found answered member
  refine ⟨cell, index, key, given, ?_⟩
  generalize (before.reconcile device).2.connection.cell? device entry.meterId index = now
    at covered ⊢
  cases covered with
  | cleared shown =>
      have reset : Codec.decode pipeline { entry with config := none } = .ok (.reset cell) :=
        Codec.decode_eq_ok_iff.mpr ⟨cell, key, by simp, rfl⟩
      simpa only [reset] using shown
  | kept decoded shown _ => simpa only [decoded] using shown
  | stuck undecodable same failed =>
      cases decoded : Codec.decode pipeline entry with
      | ok config => exact absurd decoded (undecodable config)
      | error error => exact ⟨same, rfl, failed⟩

/-- The device has a negative number where the addition was, and refuses every write. -/
def garbledSample : Coordinator ShadowTable Simulator :=
  Sample.start.run [.request (.process Sample.addition),
    .inject Sample.device 5 0 (some ⟨-1, 10, 1000, 50⟩), .failWrites true]

/-- A cell that does not decode and could not be reset keeps the entry of the addition. The same
addition is then taken to be in place, though the cell holds something else and would now be
written. -/
theorem garbled_cell_keeps_entry :
    (garbledSample.connection.read Sample.device Sample.pipeline.wireIds).1 =
        .ok [⟨5, some 0, some ⟨-1, 10, 1000, 50⟩⟩] ∧
      (garbledSample.reconcile Sample.device).2.connection.cell? Sample.device 5 0 =
        some ⟨-1, 10, 1000, 50⟩ ∧
      (Codec.decode Sample.pipeline ⟨5, some 0, some ⟨-1, 10, 1000, 50⟩⟩).isOk = false ∧
      ShadowStore.find? (garbledSample.reconcile Sample.device).2.shadow Sample.handle =
        some (.modify Sample.handle.cell ⟨100, 10⟩ ⟨1000, 50⟩) ∧
      (((garbledSample.reconcile Sample.device).2.happen (.failWrites false)).process
          Sample.addition).1 = .ok () ∧
      (((garbledSample.reconcile Sample.device).2.happen (.failWrites false)).process
          Sample.addition).2.connection.cell? Sample.device 5 0 = some ⟨-1, 10, 1000, 50⟩ := by
  decide +kernel

theorem reconcile_repairs_garbled :
    (garbledSample.connection.read Sample.device Sample.pipeline.wireIds).1 =
        .ok [⟨5, some 0, some ⟨-1, 10, 1000, 50⟩⟩] ∧
      Repaired garbledSample (garbledSample.reconcile Sample.device).2
        (garbledSample.reconcile Sample.device).1 Sample.pipeline Sample.device
        ⟨5, some 0, some ⟨-1, 10, 1000, 50⟩⟩ := by
  have answered : (garbledSample.connection.read Sample.device Sample.pipeline.wireIds).1 =
      .ok [⟨5, some 0, some ⟨-1, 10, 1000, 50⟩⟩] := by decide +kernel
  exact ⟨answered, reconcile_repairs_shadow (by decide +kernel) answered _
    (List.mem_singleton_self _)⟩

end Healing

end Coordinator

end MeterSync
