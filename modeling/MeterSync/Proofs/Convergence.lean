import MeterSync.Proofs.Exactness
import MeterSync.Proofs.Healing
import MeterSync.Proofs.Layout

/-!
# Reconciliation converges in one pass

A reconciliation that finds nothing to reset writes nothing and records what the shadow shows
already. One pass without failed resets leads to such a state, and the state does not move from
there, however often the device is reconciled.
-/

set_option autoImplicit false

namespace MeterSync

theorem filterMap_eq_of_map_eq {Source Other Target : Type} {sources : List Source}
    {others : List Other} {source : Source → Option Target} {other : Other → Option Target}
    (same : sources.map source = others.map other) :
    sources.filterMap source = others.filterMap other := by
  have images := congrArg (List.filterMap id) same
  rw [List.filterMap_map, List.filterMap_map] at images
  exact images

theorem Codec.decode?_eq_some_iff {pipeline : Pipeline} {entry : Wire.Entry}
    {config : CellConfig} :
    decode? pipeline entry = some config ↔ decode pipeline entry = .ok config := by
  rw [decode?]
  cases decode pipeline entry <;> simp [Except.toOption]

theorem Codec.decode?_cleared {pipeline : Pipeline} {entry : Wire.Entry} {cell : CellId}
    (key : decodeKey pipeline entry = .ok cell) :
    decode? pipeline entry.cleared = some (.reset cell) :=
  decode?_eq_some_iff.mpr (decode_eq_ok_iff.mpr ⟨cell, key, nofun, rfl⟩)

theorem Simulator.read_unambiguous {simulator : Simulator} {device : DeviceId}
    {pipeline : Pipeline} {entries : List Wire.Entry}
    (answered : (simulator.read device pipeline.wireIds).1 = .ok entries) :
    Codec.Unambiguous pipeline entries := by
  have read : Client.read simulator device pipeline.wireIds =
      (.ok entries, (simulator.read device pipeline.wireIds).2) := Prod.ext answered rfl
  intro first firstMember second secondMember cell firstKey secondKey
  exact read_unique read firstMember secondMember firstKey secondKey

namespace Coordinator

/-! ## Nothing to reset -/

section Quiet

variable {Shadow Connection : Type} [ShadowStore Shadow] [LawfulShadow Shadow] [Client Connection]

/-- The report of a reconciliation that resets nothing and whose read found these entries. -/
def quietReport (loses : CellHandle → Bool) (intents : IntentStore) (device : DeviceId)
    (pipeline : Pipeline) (entries : List Wire.Entry) : Report where
  meters := ((entries.filterMap (Codec.decode? pipeline)).filter
    (asIntended loses intents device)).map (·.observedMeter device)
  cellsRead := entries.length
  reset := 0
  resetFailed := 0
  undecodable := 0

theorem reconcile_quiet {coordinator : Coordinator Shadow Connection}
    {loses : CellHandle → Bool} (kept : coordinator.Kept loses) {device : DeviceId}
    {pipeline : Pipeline} (found : coordinator.pipeline? device = some pipeline)
    {entries : List Wire.Entry} {connection : Connection}
    (answered : Client.read coordinator.connection device pipeline.wireIds =
      (.ok entries, connection))
    (unambiguous : Codec.Unambiguous pipeline entries)
    (calm : ∀ entry ∈ entries, ∃ config, Codec.decode? pipeline entry = some config ∧
      callsForReset loses coordinator.intents device config = false) :
    coordinator.reconcile device =
      (quietReport loses coordinator.intents device pipeline entries,
        (coordinator.observed connection).synced device (.ofEntries pipeline entries)) := by
  obtain ⟨_, seen, batch, read, seenEq, batchEq, reported, reached⟩ :=
    (coordinator.reconciled device).of_read found (congrArg Prod.fst answered)
  cases answered.symm.trans read
  have shown := kept.shown_of_read connection device unambiguous
  rw [← seenEq] at shown
  have sameIntents : seen.intents = coordinator.intents := by
    rw [seenEq]
    rfl
  have nothing : batch.configs = [] := by
    rw [List.eq_nil_iff_forall_not_mem, batchEq]
    intro reset member
    obtain ⟨config, configMember, corrected⟩ | ⟨cell, cellMember, _⟩ := mem_corrections.mp member
    · obtain ⟨entry, entryMember, decoded⟩ := Readout.mem_configs.mp configMember
      obtain ⟨_, known, spared⟩ := calm entry entryMember
      cases (Codec.decode?_eq_some_iff.mpr decoded).symm.trans known
      rw [correction?_eq (shown config configMember), sameIntents, spared] at corrected
      cases corrected
    · obtain ⟨entry, entryMember, _, undecodable⟩ := Readout.mem_undecodable.mp cellMember
      obtain ⟨config, known, _⟩ := calm entry entryMember
      exact undecodable config (Codec.decode?_eq_some_iff.mp known)
  have counted : (Readout.ofEntries pipeline entries).size = entries.length := by
    rw [Readout.size_ofEntries, List.countP_eq_length]
    intro entry member
    obtain ⟨config, known, _⟩ := calm entry member
    rw [Codec.decodeKey_of_decode (Codec.decode?_eq_some_iff.mp known)]
    rfl
  have decodable : (Readout.ofEntries pipeline entries).undecodable.length = 0 := by
    rw [undecodable_length, List.countP_eq_zero]
    intro entry member
    obtain ⟨config, known, _⟩ := calm entry member
    simp [Codec.isUndecodable, Codec.decode?_eq_some_iff.mp known, Except.isOk, Except.toBool]
  rw [correct_of_isEmpty seen pipeline nothing] at reported reached
  refine Prod.ext ?_ (reached.trans seenEq)
  rw [reported, counted, decodable, consistentMeters_eq shown, sameIntents]
  rfl

end Quiet

/-! ## Settled devices -/

section Settled

variable {device : DeviceId} {pipeline : Pipeline} {entries : List Wire.Entry}

/-- A read of the device finds nothing to reset and nothing that the shadow does not show. -/
structure Settled (device : DeviceId) (pipeline : Pipeline) (entries : List Wire.Entry)
    (coordinator : Coordinator ShadowTable Simulator) : Prop where
  kept : coordinator.Kept fun _ => false
  found : coordinator.pipeline? device = some pipeline
  answered : (coordinator.connection.read device pipeline.wireIds).1 = .ok entries
  calm : ∀ entry ∈ entries, ∃ config, Codec.decode? pipeline entry = some config ∧
    callsForReset (fun _ => false) coordinator.intents device config = false ∧
    ShadowStore.find? coordinator.shadow (config.handle device) = some config

/-- Some reads of devices are all that happened, as far as can be seen. -/
structure Unmoved (before after : Coordinator ShadowTable Simulator) (reads : Nat) : Prop where
  pipelines : after.pipelines = before.pipelines
  intents : after.intents = before.intents
  shown : ∀ handle, ShadowStore.find? after.shadow handle = ShadowStore.find? before.shadow handle
  connection : after.connection =
    { before.connection with readCalls := before.connection.readCalls + reads }

theorem Unmoved.trans {before between after : Coordinator ShadowTable Simulator}
    {earlier later : Nat} (first : Unmoved before between earlier)
    (second : Unmoved between after later) : Unmoved before after (earlier + later) := by
  constructor
  · exact second.pipelines.trans first.pipelines
  · exact second.intents.trans first.intents
  · intro handle
    exact (second.shown handle).trans (first.shown handle)
  · rw [second.connection, first.connection, Nat.add_assoc]

variable {coordinator after : Coordinator ShadowTable Simulator}

theorem Settled.unmoved {reads : Nat} (settled : Settled device pipeline entries coordinator)
    (unmoved : Unmoved coordinator after reads) : Settled device pipeline entries after := by
  constructor
  · exact ⟨rfl, nofun, by rw [unmoved.intents]; exact settled.kept.intended⟩
  · rw [pipeline?_congr unmoved.pipelines]
    exact settled.found
  · have answered := Simulator.read_eq_ok_iff.mp settled.answered
    rw [unmoved.connection]
    exact Simulator.read_eq_ok_iff.mpr answered
  · intro entry member
    obtain ⟨config, decoded, spared, shown⟩ := settled.calm entry member
    refine ⟨config, decoded, ?_, (unmoved.shown _).trans shown⟩
    rw [unmoved.intents]
    exact spared

theorem Settled.reconcile (settled : Settled device pipeline entries coordinator) :
    (coordinator.reconcile device).1 =
        quietReport (fun _ => false) coordinator.intents device pipeline entries ∧
      Unmoved coordinator (coordinator.reconcile device).2 1 := by
  have read : Client.read coordinator.connection device pipeline.wireIds =
      (.ok entries, { coordinator.connection with
        readCalls := coordinator.connection.readCalls + 1 }) :=
    Prod.ext settled.answered (coordinator.connection.read_connection ..)
  have unambiguous := Simulator.read_unambiguous settled.answered
  have quiet := reconcile_quiet settled.kept settled.found read unambiguous fun entry member => by
    obtain ⟨config, decoded, spared, _⟩ := settled.calm entry member
    exact ⟨config, decoded, spared⟩
  rw [quiet]
  refine ⟨rfl, rfl, rfl, fun handle => ?_, rfl⟩
  -- What is recorded was shown before.
  have recorded := ShadowStore.find?_record coordinator.shadow device
    (Readout.ofEntries pipeline entries).configs handle
  refine recorded.trans ?_
  split
  · rename_i own
    cases last : CellConfig.latest? (Readout.ofEntries pipeline entries).configs handle.cell with
    | none => exact Option.none_or
    | some config =>
        obtain ⟨member, sameCell⟩ := CellConfig.latest?_mem last
        obtain ⟨entry, entryMember, decoded⟩ := Readout.mem_configs.mp member
        obtain ⟨_, known, _, shown⟩ := settled.calm entry entryMember
        cases (Codec.decode?_eq_some_iff.mpr decoded).symm.trans known
        rw [CellConfig.handle, sameCell, ← own.1] at shown
        exact shown.symm
  · rfl

/-- However often a settled device is reconciled, nothing moves. -/
theorem Settled.stays (settled : Settled device pipeline entries coordinator) (times : Nat) :
    Unmoved coordinator (coordinator.serveAll (List.replicate times (.reconcile device)))
      times := by
  induction times generalizing coordinator with
  | zero => exact ⟨rfl, rfl, fun _ => rfl, rfl⟩
  | succ times ih =>
      obtain ⟨_, once⟩ := settled.reconcile
      have more := once.trans (ih (settled.unmoved once))
      rw [Nat.add_comm] at more
      exact more

end Settled

/-! ## What one pass leaves -/

section Pass

variable {device : DeviceId} {pipeline : Pipeline} {entries : List Wire.Entry}

/-- The cell of an entry is to be reset: the entry does not decode, or what it decodes to calls for
a reset. -/
def resets (intents : IntentStore) (device : DeviceId) (pipeline : Pipeline)
    (entry : Wire.Entry) : Bool :=
  (Codec.decode? pipeline entry).all (callsForReset (fun _ => false) intents device)

/-- The entry as a pass leaves it in which no reset fails. -/
def leftBy (intents : IntentStore) (device : DeviceId) (pipeline : Pipeline)
    (entry : Wire.Entry) : Wire.Entry :=
  if resets intents device pipeline entry then entry.cleared else entry

theorem reset_mem_corrections_iff {seen : Coordinator ShadowTable Simulator}
    (shown : ∀ config ∈ (Readout.ofEntries pipeline entries).configs,
      ShadowStore.find? seen.shadow (config.handle device) = some config)
    (unambiguous : Codec.Unambiguous pipeline entries) {entry : Wire.Entry}
    (member : entry ∈ entries) {cell : CellId}
    (key : Codec.decodeKey pipeline entry = .ok cell) :
    .reset cell ∈ (seen.corrections device (.ofEntries pipeline entries)).configs ↔
      resets seen.intents device pipeline entry = true := by
  have correction (config : CellConfig)
      (configMember : config ∈ (Readout.ofEntries pipeline entries).configs) :
      seen.correction? device config =
        if callsForReset (fun _ => false) seen.intents device config then
          some (.reset config.cell) else none :=
    correction?_eq (shown config configMember)
  rw [mem_corrections, resets]
  constructor
  · intro corrected
    rcases corrected with ⟨config, configMember, corrected⟩ | ⟨other, otherMember, same⟩
    · have sameCell : cell = config.cell :=
        congrArg CellConfig.cell (correction?_eq_some corrected)
      obtain ⟨otherEntry, entryMember, decoded⟩ := Readout.mem_configs.mp configMember
      have otherKey := Codec.decodeKey_of_decode decoded
      rw [← sameCell] at otherKey
      have sameEntry := unambiguous otherEntry entryMember entry member cell otherKey key
      rw [sameEntry] at decoded
      rw [Codec.decode?_eq_some_iff.mpr decoded, Option.all_some]
      rw [correction config configMember] at corrected
      cases called : callsForReset (fun _ => false) seen.intents device config with
      | true => rfl
      | false =>
          rw [called] at corrected
          cases corrected
    · have sameCell : other = cell := congrArg CellConfig.cell same
      obtain ⟨otherEntry, entryMember, otherKey, undecodable⟩ :=
        Readout.mem_undecodable.mp otherMember
      rw [sameCell] at otherKey
      have sameEntry := unambiguous otherEntry entryMember entry member cell otherKey key
      rw [sameEntry] at undecodable
      cases decoded : Codec.decode? pipeline entry with
      | none => rfl
      | some config => exact absurd (Codec.decode?_eq_some_iff.mp decoded) (undecodable config)
  · intro called
    cases decoded : Codec.decode? pipeline entry with
    | none =>
        refine .inr ⟨cell, Readout.mem_undecodable.mpr ⟨entry, member, key, ?_⟩, rfl⟩
        intro config same
        rw [Codec.decode?_eq_some_iff.mpr same] at decoded
        cases decoded
    | some config =>
        have known := Codec.decode?_eq_some_iff.mp decoded
        have configMember := Readout.mem_configs.mpr ⟨entry, member, known⟩
        rw [decoded, Option.all_some] at called
        refine .inl ⟨config, configMember, ?_⟩
        rw [correction config configMember, if_pos called]
        rw [Codec.decodeKey_of_decode known] at key
        cases key
        rfl

theorem calm_leftBy (intents : IntentStore) (device : DeviceId) {entry : Wire.Entry} {cell : CellId}
    (key : Codec.decodeKey pipeline entry = .ok cell) :
    ∃ config, Codec.decode? pipeline (leftBy intents device pipeline entry) = some config ∧
      callsForReset (fun _ => false) intents device config = false := by
  rw [leftBy]
  split
  · exact ⟨.reset cell, Codec.decode?_cleared key, rfl⟩
  · rename_i spared
    rw [resets] at spared
    cases decoded : Codec.decode? pipeline entry with
    | none =>
        rw [decoded] at spared
        exact absurd rfl spared
    | some config =>
        rw [decoded, Option.all_some, Bool.not_eq_true] at spared
        exact ⟨config, rfl, spared⟩

variable {intents : IntentStore}

theorem asIntended_of_callsForReset {config : CellConfig}
    (called : callsForReset (fun _ => false) intents device config = true) :
    asIntended (fun _ => false) intents device config = false := by
  rw [callsForReset] at called
  rw [asIntended]
  simp only [Bool.false_eq_true, if_false, Bool.and_eq_true, bne_iff_ne, ne_eq] at called
  simp [called.2]

/-- Nothing but bands is asked for, so a cell that is reset was not as intended and is not so
afterwards. -/
theorem intended_leftBy
    (intended : ∀ handle intent, intents.lookup handle = some intent →
      ∃ committed peak, intent.config.state = .modify committed peak)
    {entry : Wire.Entry} {cell : CellId} (key : Codec.decodeKey pipeline entry = .ok cell) :
    (Codec.decode? pipeline (leftBy intents device pipeline entry)).filter
        (asIntended (fun _ => false) intents device) =
      (Codec.decode? pipeline entry).filter (asIntended (fun _ => false) intents device) := by
  rw [leftBy]
  split
  · rename_i called
    have cleared : asIntended (fun _ => false) intents device (.reset cell) = false := by
      rw [Bool.eq_false_iff]
      intro asked
      rw [asIntended, Bool.and_eq_true, beq_iff_eq, Option.map_eq_some_iff] at asked
      obtain ⟨_, intent, known, same⟩ := asked
      obtain ⟨committed, peak, bands⟩ := intended _ intent known
      rw [same] at bands
      cases bands
    rw [Codec.decode?_cleared key, Option.filter_some, cleared]
    rw [resets] at called
    cases decoded : Codec.decode? pipeline entry with
    | none => rfl
    | some config =>
        rw [decoded, Option.all_some] at called
        rw [Option.filter_some, asIntended_of_callsForReset called]
        rfl
  · rfl

variable {before : Coordinator ShadowTable Simulator}

theorem Kept.left_of_read (kept : before.Kept fun _ => false)
    (found : before.pipeline? device = some pipeline)
    (answered : (before.connection.read device pipeline.wireIds).1 = .ok entries)
    (clean : (before.reconcile device).1.resetFailed = 0) {entry : Wire.Entry}
    (member : entry ∈ entries) :
    (before.reconcile device).2.connection.cells.refresh device entry =
        leftBy before.intents device pipeline entry ∧
      ∀ config, Codec.decode? pipeline (leftBy before.intents device pipeline entry) =
          some config →
        ShadowStore.find? (before.reconcile device).2.shadow (config.handle device) =
          some config := by
  obtain ⟨connection, seen, batch, read, seenEq, batchEq, reported, reached⟩ :=
    (before.reconciled device).of_read found answered
  obtain ⟨cell, index, key, given, held⟩ := Simulator.decodeKey_of_read read member
  have unambiguous := Simulator.read_unambiguous answered
  have shown := kept.shown_of_read connection device unambiguous
  rw [← seenEq] at shown
  have sameIntents : seen.intents = before.intents := by
    rw [seenEq]
    rfl
  have sameCells : seen.connection.cells = before.connection.cells := by
    rw [seenEq]
    exact Simulator.cells_of_read read
  have sameDevice : batch.device = device := congrArg WriteBatch.device batchEq
  have onlyResets : ∀ config ∈ batch.configs, config = .reset config.cell := by
    rw [batchEq]
    exact fun _ => corrections_reset
  have taken : (seen.correct pipeline batch).1.accepted = batch.configs := by
    rw [reported] at clean
    exact correct_accepted clean
  -- The cell is cleared exactly if the entry is to be reset, since all resets were taken.
  have corrected := reset_mem_corrections_iff shown unambiguous member key
  rw [← batchEq, ← taken, sameIntents] at corrected
  have cells := seen.cells_correct onlyResets key given
  rw [sameDevice, sameCells, ← held] at cells
  have keeps : LawfulShadow.loses seen.shadow ⟨batch.device, cell⟩ = false := rfl
  have cellShown := seen.find?_correct pipeline onlyResets keeps
  rw [sameDevice] at cellShown
  rw [reached, CellView.refresh, given, Option.bind_some, cells, leftBy]
  by_cases called : resets before.intents device pipeline entry = true
  · rw [if_pos (corrected.mpr called)] at cellShown ⊢
    rw [if_pos called]
    refine ⟨by rw [Wire.Entry.cleared, given], fun config decoded => ?_⟩
    rw [Codec.decode?_cleared key] at decoded
    cases decoded
    exact cellShown
  · have spared := mt corrected.mp called
    rw [if_neg spared] at cellShown ⊢
    rw [if_neg called]
    refine ⟨by rw [← given], fun config decoded => ?_⟩
    have known := Codec.decode?_eq_some_iff.mp decoded
    have sameCell := Except.ok.inj (key.symm.trans (Codec.decodeKey_of_decode known))
    rw [sameCell] at cellShown
    exact cellShown.trans (shown config (Readout.mem_configs.mpr ⟨entry, member, known⟩))

/-- A reconciliation in which no reset fails leaves the device settled. -/
theorem Kept.settled_reconcile (kept : before.Kept fun _ => false)
    (found : before.pipeline? device = some pipeline)
    (answered : (before.connection.read device pipeline.wireIds).1 = .ok entries)
    (clean : (before.reconcile device).1.resetFailed = 0) :
    Settled device pipeline (entries.map (leftBy before.intents device pipeline))
      (before.reconcile device).2 := by
  have ended := before.reconciled device
  obtain ⟨samePipelines, sameIntents⟩ := ended.frame
  have left {entry : Wire.Entry} (member : entry ∈ entries) :=
    kept.left_of_read found answered clean member
  have read : Client.read before.connection device pipeline.wireIds =
      (.ok entries, (before.connection.read device pipeline.wireIds).2) := Prod.ext answered rfl
  constructor
  · exact kept.reconcile ended
  · rw [pipeline?_congr samePipelines]
    exact found
  · rw [← List.map_congr_left fun entry member => (left member).1]
    exact ended.alike.read_again answered
  · intro entry member
    obtain ⟨found, foundMember, rfl⟩ := List.mem_map.mp member
    obtain ⟨cell, _, key, _⟩ := Simulator.decodeKey_of_read read foundMember
    obtain ⟨config, decoded, spared⟩ := calm_leftBy before.intents device key
    rw [sameIntents]
    exact ⟨config, decoded, spared, (left foundMember).2 config decoded⟩

theorem Kept.report_of_read (kept : before.Kept fun _ => false)
    (found : before.pipeline? device = some pipeline)
    (answered : (before.connection.read device pipeline.wireIds).1 = .ok entries) :
    (before.reconcile device).1.meters =
        (quietReport (fun _ => false) before.intents device pipeline
          (entries.map (leftBy before.intents device pipeline))).meters ∧
      (before.reconcile device).1.cellsRead = entries.length := by
  obtain ⟨connection, seen, batch, read, seenEq, batchEq, reported, reached⟩ :=
    (before.reconciled device).of_read found answered
  have unambiguous := Simulator.read_unambiguous answered
  have shown := kept.shown_of_read connection device unambiguous
  rw [← seenEq] at shown
  have sameIntents : seen.intents = before.intents := by
    rw [seenEq]
    rfl
  rw [reported]
  constructor
  · have meters : seen.consistentMeters device (Readout.ofEntries pipeline entries).configs =
        ((entries.filterMap (Codec.decode? pipeline)).filter
          (asIntended (fun _ => false) seen.intents device)).map (·.observedMeter device) :=
      consistentMeters_eq shown
    rw [meters, sameIntents, quietReport]
    dsimp only
    rw [List.filterMap_map, List.filter_filterMap, List.filter_filterMap]
    -- Entry by entry, what is as intended is left as it is, and what is reset is not as intended.
    refine congrArg (List.map _)
      (filterMap_eq_of_map_eq (List.map_congr_left fun entry member => ?_))
    obtain ⟨cell, _, key, _⟩ := Simulator.decodeKey_of_read read member
    exact (intended_leftBy kept.intended key).symm
  · rw [Readout.size_ofEntries, List.countP_eq_length]
    intro entry member
    obtain ⟨cell, _, key, _⟩ := Simulator.decodeKey_of_read read member
    rw [key]
    rfl

end Pass

/-! ## Every run on simulated devices -/

theorem new_kept (lockStripes : UInt64) (pipelines : PipelineTable) (simulator : Simulator) :
    (new lockStripes pipelines (∅ : ShadowTable) simulator).Kept fun _ => false := by
  constructor
  · rfl
  · intro handle lost
    cases lost
  · intro handle intent known
    rw [new, IntentStore.lookup_empty] at known
    cases known

theorem Kept.happen {coordinator : Coordinator ShadowTable Simulator} {event : Event}
    (kept : coordinator.Kept fun _ => false) : (coordinator.happen event).Kept fun _ => false := by
  cases event with
  | request request => exact kept.serve request
  | inject device wireId index config => exact ⟨kept.loses_eq, kept.lost, kept.intended⟩
  | failWrites fail => exact ⟨kept.loses_eq, kept.lost, kept.intended⟩
  | failReads fail => exact ⟨kept.loses_eq, kept.lost, kept.intended⟩

/-- Wherever a run on simulated devices has led, a reconciliation that reads the device and whose
resets are all taken is enough. Each that follows reports the same meters and nothing to do, and
does no more than read. -/
theorem reconcile_converges (lockStripes : UInt64) (pipelines : PipelineTable)
    (placed : List (DeviceId × Pipeline)) (events : List Event)
    {before : Coordinator ShadowTable Simulator}
    (reached : before =
      (new lockStripes pipelines (∅ : ShadowTable) (.ofDevices placed)).run events)
    {device : DeviceId} {pipeline : Pipeline} (found : pipelines.get? device = some pipeline)
    {entries : List Wire.Entry}
    (answered : (before.connection.read device pipeline.wireIds).1 = .ok entries)
    (clean : (before.reconcile device).1.resetFailed = 0) (times : Nat) :
    let first := before.reconcile device
    let next := (first.2.serveAll (List.replicate times (.reconcile device))).reconcile device
    next.1 =
        { meters := first.1.meters
          cellsRead := first.1.cellsRead
          reset := 0
          resetFailed := 0
          undecodable := 0 } ∧
      Unmoved first.2 next.2 (times + 1) := by
  intro first next
  have kept : before.Kept fun _ => false := by
    rw [reached]
    exact run_induction (new_kept ..) fun _ _ _ held => held.happen
  have known : before.pipeline? device = some pipeline := by
    rw [pipeline?, reached, run_pipelines]
    exact found
  have settled := kept.settled_reconcile known answered clean
  obtain ⟨meters, cellsRead⟩ := kept.report_of_read known answered
  obtain ⟨_, sameIntents⟩ := (before.reconciled device).frame
  have waited := settled.stays times
  obtain ⟨reported, once⟩ := (settled.unmoved waited).reconcile
  refine ⟨?_, waited.trans once⟩
  rw [waited.intents, sameIntents] at reported
  refine reported.trans ?_
  rw [show first.1.meters = _ from meters, show first.1.cellsRead = _ from cellsRead, quietReport,
    List.length_map]

end Coordinator

/-! ## A device with four cells -/

namespace Sample

def wide : Pipeline := ⟨[⟨meter, 5, 4, .bytes⟩], by decide, by decide, by decide⟩

def additionAt (index : UInt64) : Operation :=
  { addition with meter := { addition.meter with cell := ⟨meter, index⟩ } }

/-- Two cells are asked for. Others then give bands to a third and numbers that do not decode to a
fourth, and take away what one of the two had. -/
def drifted : Coordinator ShadowTable Simulator :=
  (Coordinator.new 1 (Std.TreeMap.insert ∅ device wide) ∅ (.ofDevices [(device, wide)])).run
    [.request (.process (additionAt 0)), .request (.process (additionAt 1)),
      .inject device 5 1 none, .inject device 5 2 (some numbers),
      .inject device 5 3 (some ⟨-1, 10, 1000, 50⟩)]

end Sample

namespace Coordinator

theorem reconcile_converges_drifted :
    (Sample.drifted.reconcile Sample.device).1.reset = 2 ∧
      (Sample.drifted.reconcile Sample.device).1.undecodable = 1 ∧
      let first := Sample.drifted.reconcile Sample.device
      let next := (first.2.serveAll [.reconcile Sample.device]).reconcile Sample.device
      next.1 =
          { meters := first.1.meters
            cellsRead := first.1.cellsRead
            reset := 0
            resetFailed := 0
            undecodable := 0 } ∧
        Unmoved first.2 next.2 2 := by
  have answered : (Sample.drifted.connection.read Sample.device Sample.wide.wireIds).1 =
      .ok [⟨5, some 0, some Sample.numbers⟩, ⟨5, some 1, none⟩, ⟨5, some 2, some Sample.numbers⟩,
        ⟨5, some 3, some ⟨-1, 10, 1000, 50⟩⟩] := by decide +kernel
  have clean : (Sample.drifted.reconcile Sample.device).1.resetFailed = 0 := by decide +kernel
  have converges := reconcile_converges 1 (Std.TreeMap.insert ∅ Sample.device Sample.wide)
    [(Sample.device, Sample.wide)] _ (Eq.refl Sample.drifted) (by decide +kernel) answered clean 1
  exact ⟨by decide +kernel, by decide +kernel, converges⟩

end Coordinator

end MeterSync
