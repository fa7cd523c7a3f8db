import MeterSync.Coordinator.Reconciliation
import MeterSync.Proofs.Shadow
import MeterSync.Proofs.Submission

/-!
# How reconciliations end

A reconciliation ends without a pipeline, with a failed read, or with the resets that its readout
calls for. Only resets are ever written, and they are recorded as far as they were taken.
-/

set_option autoImplicit false

namespace MeterSync

/-- The wire ids of all arrays of a pipeline, in its order. -/
def Pipeline.wireIds (pipeline : Pipeline) : List UInt32 :=
  pipeline.arrays.map (·.wireId)

/-- The names of the arrays of a pipeline are known to it. -/
theorem Codec.wireIds_arrays (pipeline : Pipeline) :
    Codec.wireIds pipeline (pipeline.arrays.map (·.id)) = .ok pipeline.wireIds := by
  have all : ∀ arrays : List MeterArray, (∀ array ∈ arrays, array ∈ pipeline.arrays) →
      Codec.wireIds pipeline (arrays.map (·.id)) = .ok (arrays.map (·.wireId)) := by
    intro arrays included
    induction arrays with
    | nil => rfl
    | cons array arrays ih =>
        obtain ⟨member, rest⟩ := List.forall_mem_cons.mp included
        have found : pipeline.array? array.id = some array :=
          Pipeline.array?_eq_some_iff.mpr ⟨member, rfl⟩
        simp [Codec.wireIds, found, ih rest, bind, Except.bind, pure, Except.pure]
  exact all pipeline.arrays fun _ member => member

namespace Readout

theorem mem_configs {pipeline : Pipeline} {entries : List Wire.Entry} {config : CellConfig} :
    config ∈ (ofEntries pipeline entries).configs ↔
      ∃ entry ∈ entries, Codec.decode pipeline entry = .ok config := by
  simp only [ofEntries, List.mem_filterMap, Codec.decode?]
  refine exists_congr fun entry => and_congr_right fun _ => ?_
  cases Codec.decode pipeline entry <;> simp [Except.toOption]

theorem mem_undecodable {pipeline : Pipeline} {entries : List Wire.Entry} {cell : CellId} :
    cell ∈ (ofEntries pipeline entries).undecodable ↔
      ∃ entry ∈ entries, Codec.decodeKey pipeline entry = .ok cell ∧
        ∀ config, Codec.decode pipeline entry ≠ .ok config := by
  simp only [ofEntries, List.mem_filterMap, Codec.undecodable?]
  refine exists_congr fun entry => and_congr_right fun _ => ?_
  cases Codec.decode pipeline entry with
  | ok config => simp
  | error error => cases Codec.decodeKey pipeline entry <;> simp [Except.toOption]

/-- If no cell is addressed twice, entries for one cell are one and the same. -/
theorem key_unique {pipeline : Pipeline} {entries : List Wire.Entry}
    (distinct : (entries.filterMap fun entry =>
      (Codec.decodeKey pipeline entry).toOption).Nodup)
    {first second : Wire.Entry} (firstMember : first ∈ entries) (secondMember : second ∈ entries)
    {cell : CellId} (firstKey : Codec.decodeKey pipeline first = .ok cell)
    (secondKey : Codec.decodeKey pipeline second = .ok cell) : first = second := by
  induction entries with
  | nil => cases firstMember
  | cons entry entries ih =>
      rw [List.filterMap_cons] at distinct
      have present {other : Wire.Entry} (member : other ∈ entries)
          (key : Codec.decodeKey pipeline other = .ok cell) :
          cell ∈ entries.filterMap fun entry => (Codec.decodeKey pipeline entry).toOption :=
        List.mem_filterMap.mpr ⟨other, member, by rw [key]; rfl⟩
      obtain rfl | firstLater := List.mem_cons.mp firstMember <;>
        obtain rfl | secondLater := List.mem_cons.mp secondMember
      · rfl
      · rw [firstKey] at distinct
        exact absurd (present secondLater secondKey) (List.nodup_cons.mp distinct).1
      · rw [secondKey] at distinct
        exact absurd (present firstLater firstKey) (List.nodup_cons.mp distinct).1
      · refine ih ?_ firstLater secondLater
        split at distinct
        · exact distinct
        · exact (List.nodup_cons.mp distinct).2

theorem size_ofEntries (pipeline : Pipeline) (entries : List Wire.Entry) :
    (ofEntries pipeline entries).size =
      entries.countP fun entry => (Codec.decodeKey pipeline entry).isOk := by
  simp only [size, ofEntries]
  induction entries with
  | nil => rfl
  | cons entry entries ih =>
      simp only [List.filterMap_cons, List.countP_cons, ← ih, Codec.decode?, Codec.undecodable?]
      cases decoded : Codec.decode pipeline entry with
      | ok config =>
          have key := Codec.decodeKey_of_decode decoded
          simp [key, Except.toOption, Except.isOk, Except.toBool]
          omega
      | error error =>
          cases Codec.decodeKey pipeline entry with
          | ok cell =>
              simp [Except.toOption, Except.isOk, Except.toBool]
              omega
          | error error => simp [Except.toOption, Except.isOk, Except.toBool]

/-- If no other entry is for its cell, what an entry decodes to is the last that was seen of it. -/
theorem latest?_of_decode {pipeline : Pipeline} {entries : List Wire.Entry} {entry : Wire.Entry}
    {config : CellConfig} (decoded : Codec.decode pipeline entry = .ok config)
    (member : entry ∈ entries)
    (unique : ∀ other ∈ entries, Codec.decodeKey pipeline other = .ok config.cell →
      other = entry) :
    CellConfig.latest? (ofEntries pipeline entries).configs config.cell = some config := by
  cases last : CellConfig.latest? (ofEntries pipeline entries).configs config.cell with
  | none =>
      have absent := CellConfig.latest?_eq_none_iff.mp last config
        (mem_configs.mpr ⟨entry, member, decoded⟩)
      exact absurd rfl absent
  | some other =>
      obtain ⟨otherMember, sameCell⟩ := CellConfig.latest?_mem last
      obtain ⟨otherEntry, entryMember, otherDecoded⟩ := mem_configs.mp otherMember
      have key := Codec.decodeKey_of_decode otherDecoded
      rw [sameCell] at key
      rw [unique otherEntry entryMember key, decoded] at otherDecoded
      cases otherDecoded
      rfl

/-- If no other entry is for its cell, nothing was seen of the cell of an entry that does not
decode. -/
theorem latest?_of_undecodable {pipeline : Pipeline} {entries : List Wire.Entry}
    {entry : Wire.Entry} {cell : CellId}
    (undecodable : ∀ config, Codec.decode pipeline entry ≠ .ok config)
    (unique : ∀ other ∈ entries, Codec.decodeKey pipeline other = .ok cell → other = entry) :
    CellConfig.latest? (ofEntries pipeline entries).configs cell = none := by
  rw [CellConfig.latest?_eq_none_iff]
  rintro config member rfl
  obtain ⟨other, otherMember, decoded⟩ := mem_configs.mp member
  rw [unique other otherMember (Codec.decodeKey_of_decode decoded)] at decoded
  exact undecodable config decoded

end Readout

namespace Coordinator

variable {Shadow Connection : Type}

/-- The coordinator once a reconciliation is counted and its read is answered. -/
def observed (coordinator : Coordinator Shadow Connection) (connection : Connection) :
    Coordinator Shadow Connection :=
  { coordinator with
    connection
    stats :=
      { coordinator.stats with reconciliations := coordinator.stats.reconciliations + 1 } }

theorem observe_eq [Client Connection] (coordinator : Coordinator Shadow Connection)
    (pipeline : Pipeline) (device : DeviceId) :
    coordinator.observe pipeline device =
      match Client.read coordinator.connection device pipeline.wireIds with
      | (.error error, connection) => (.error error, { coordinator with connection })
      | (.ok entries, connection) =>
        (.ok (.ofEntries pipeline entries), { coordinator with connection }) := by
  simp only [observe, Client.readCells, Codec.wireIds_arrays]
  cases Client.read coordinator.connection device pipeline.wireIds with
  | mk answer connection => cases answer <;> rfl

variable [ShadowStore Shadow]

/-- The coordinator once what was read is recorded. -/
def synced (coordinator : Coordinator Shadow Connection) (device : DeviceId)
    (readout : Readout) : Coordinator Shadow Connection :=
  { coordinator with shadow := ShadowStore.record coordinator.shadow device readout.configs }

theorem mem_corrections {coordinator : Coordinator Shadow Connection} {device : DeviceId}
    {readout : Readout} {config : CellConfig} :
    config ∈ (coordinator.corrections device readout).configs ↔
      (∃ seen ∈ readout.configs, coordinator.correction? device seen = some config) ∨
        ∃ cell ∈ readout.undecodable, .reset cell = config := by
  simp only [corrections, List.mem_append, List.mem_filterMap, List.mem_map]

theorem correction?_eq_some {coordinator : Coordinator Shadow Connection} {device : DeviceId}
    {seen config : CellConfig} (corrected : coordinator.correction? device seen = some config) :
    config = .reset seen.cell := by
  simp only [correction?] at corrected
  split at corrected
  · cases corrected
  · cases corrected
  · split at corrected
    · cases corrected
    · exact (Option.some.inj corrected).symm

theorem corrections_reset {coordinator : Coordinator Shadow Connection} {device : DeviceId}
    {readout : Readout} {config : CellConfig}
    (member : config ∈ (coordinator.corrections device readout).configs) :
    config = .reset config.cell := by
  obtain ⟨seen, _, corrected⟩ | ⟨cell, _, rfl⟩ := mem_corrections.mp member
  · rw [correction?_eq_some corrected]
    rfl
  · rfl

theorem correction?_eq_none {coordinator : Coordinator Shadow Connection} {device : DeviceId}
    {readout : Readout} {config : CellConfig} (seen : config ∈ readout.configs)
    (spared : .reset config.cell ∉ (coordinator.corrections device readout).configs) :
    coordinator.correction? device config = none := by
  cases corrected : coordinator.correction? device config with
  | none => rfl
  | some reset =>
      have member := mem_corrections.mpr (.inl ⟨config, seen, corrected⟩)
      rw [correction?_eq_some corrected] at member
      exact absurd member spared

/-- What is seen is left alone only if it is as intended or default. -/
theorem of_correction?_eq_none {coordinator : Coordinator Shadow Connection} {device : DeviceId}
    {config : CellConfig} (alone : coordinator.correction? device config = none)
    (shown : ShadowStore.find? coordinator.shadow (config.handle device) = some config) :
    (∃ intent, coordinator.intents.lookup (config.handle device) = some intent ∧
      intent.config = config) ∨ config = .reset config.cell := by
  simp only [correction?, judge] at alone
  cases known : coordinator.intents.lookup (config.handle device) with
  | none =>
      by_cases default : config.isDefault = true
      · exact .inr (CellConfig.isDefault_iff.mp default)
      · simp only [known, default, if_false, ShadowStore.holds, shown, Bool.false_eq_true] at alone
        simpa using alone
  | some intent =>
      by_cases same : intent.config = config
      · exact .inl ⟨intent, rfl, same⟩
      · simp only [known, ne_eq, same, not_false_eq_true, if_true, ShadowStore.holds, shown]
          at alone
        exact .inr (by simpa using alone)

variable [Client Connection]

/-! ## Resets -/

theorem correct_of_isEmpty (coordinator : Coordinator Shadow Connection) (pipeline : Pipeline)
    {batch : WriteBatch} (nothing : batch.configs = []) :
    coordinator.correct pipeline batch = (⟨batch.device, []⟩, coordinator) := by
  simp [correct, nothing]

theorem correct_of_submit (coordinator : Coordinator Shadow Connection) (pipeline : Pipeline)
    {batch : WriteBatch} (something : batch.configs ≠ []) :
    (coordinator.correct pipeline batch).1 =
        (Client.submit pipeline batch coordinator.connection).1 ∧
      (coordinator.correct pipeline batch).2.connection =
        (Client.submit pipeline batch coordinator.connection).2 := by
  simp [correct, something, send]

/-- Whether or not there is anything to write, the intents stay, and the shadow takes what was
taken. -/
theorem correct_frame (coordinator : Coordinator Shadow Connection) (pipeline : Pipeline)
    (batch : WriteBatch) :
    (coordinator.correct pipeline batch).2.pipelines = coordinator.pipelines ∧
      (coordinator.correct pipeline batch).2.intents = coordinator.intents ∧
      (coordinator.correct pipeline batch).2.shadow =
        ShadowStore.record coordinator.shadow batch.device
          (coordinator.correct pipeline batch).1.accepted := by
  simp only [correct]
  split
  · exact ⟨rfl, rfl, rfl⟩
  · simp only [send, ShadowStore.recordOutcome, Client.submit_device, and_self]

theorem correct_configs (coordinator : Coordinator Shadow Connection) (pipeline : Pipeline)
    (batch : WriteBatch) :
    (coordinator.correct pipeline batch).1.outcomes.map (·.config) = batch.configs := by
  simp only [correct]
  split
  · rename_i nothing
    simpa using nothing
  · exact Client.submit_configs pipeline batch coordinator.connection

/-- Only resets are taken of a batch of resets. -/
theorem correct_resets (coordinator : Coordinator Shadow Connection) (pipeline : Pipeline)
    {batch : WriteBatch} (resets : ∀ config ∈ batch.configs, config = .reset config.cell) :
    ∀ config ∈ (coordinator.correct pipeline batch).1.accepted,
      config = .reset config.cell := by
  intro config taken
  have member := BatchOutcome.mem_accepted taken
  rw [correct_configs] at member
  exact resets config member

/-- Without failures the whole batch is taken. -/
theorem correct_accepted {coordinator : Coordinator Shadow Connection} {pipeline : Pipeline}
    {batch : WriteBatch} (clean : (coordinator.correct pipeline batch).1.failed.length = 0) :
    (coordinator.correct pipeline batch).1.accepted = batch.configs :=
  (BatchOutcome.accepted_of_failed_eq_nil clean).trans (correct_configs ..)

/-- Follows resets on simulated devices as they are taken one by one. -/
theorem correct_induction {coordinator : Coordinator Shadow Simulator} {pipeline : Pipeline}
    {batch : WriteBatch} {motive : List CellConfig → CellView → Prop}
    (start : motive [] coordinator.connection.cells)
    (step : ∀ taken cells config entry index, config ∈ batch.configs →
      Codec.encode pipeline config = .ok entry → entry.index = some index → motive taken cells →
        motive (taken ++ [config]) (cells.set batch.device entry.meterId index entry.config)) :
    motive (coordinator.correct pipeline batch).1.accepted
      (coordinator.correct pipeline batch).2.connection.cells := by
  simp only [correct]
  split
  · exact start
  · exact Client.submit_induction start step

/-! ## The ways to end -/

/-- How a reconciliation ends: what is reported and what the coordinator is afterwards. -/
inductive Reconciled (coordinator : Coordinator Shadow Connection) (device : DeviceId) :
    Report → Coordinator Shadow Connection → Prop where
  | unknown :
      coordinator.pipeline? device = none → Reconciled coordinator device .empty coordinator
  | unread {pipeline : Pipeline} {error : ClientError} {connection : Connection} :
      coordinator.pipeline? device = some pipeline →
      Client.read coordinator.connection device pipeline.wireIds = (.error error, connection) →
      Reconciled coordinator device .empty (coordinator.observed connection)
  | read {pipeline : Pipeline} {entries : List Wire.Entry} {connection : Connection}
      {readout : Readout} {seen : Coordinator Shadow Connection} {batch : WriteBatch} :
      coordinator.pipeline? device = some pipeline →
      Client.read coordinator.connection device pipeline.wireIds = (.ok entries, connection) →
      readout = .ofEntries pipeline entries →
      seen = (coordinator.observed connection).synced device readout →
      batch = seen.corrections device readout →
      Reconciled coordinator device
        { meters := seen.consistentMeters device readout.configs
          cellsRead := readout.size
          reset := (seen.correct pipeline batch).1.accepted.length
          resetFailed := (seen.correct pipeline batch).1.failed.length
          undecodable := readout.undecodable.length }
        (seen.correct pipeline batch).2

theorem reconciled (coordinator : Coordinator Shadow Connection) (device : DeviceId) :
    Reconciled coordinator device (coordinator.reconcile device).1
      (coordinator.reconcile device).2 := by
  cases found : coordinator.pipeline? device with
  | none =>
      simp only [reconcile, found]
      exact .unknown found
  | some pipeline =>
      simp only [reconcile, found, observe_eq, count]
      cases answered : Client.read coordinator.connection device pipeline.wireIds with
      | mk answer connection =>
          cases answer with
          | error error => exact .unread found answered
          | ok entries => exact .read found answered rfl rfl rfl

/-- What follows a read that succeeds: it is recorded, and the resets it calls for are written. -/
theorem Reconciled.of_read {coordinator after : Coordinator Shadow Connection}
    {device : DeviceId} {report : Report} (ended : Reconciled coordinator device report after)
    {pipeline : Pipeline} (found : coordinator.pipeline? device = some pipeline)
    {entries : List Wire.Entry}
    (answered : (Client.read coordinator.connection device pipeline.wireIds).1 = .ok entries) :
    ∃ connection seen batch,
      Client.read coordinator.connection device pipeline.wireIds = (.ok entries, connection) ∧
      seen = (coordinator.observed connection).synced device (.ofEntries pipeline entries) ∧
      batch = seen.corrections device (.ofEntries pipeline entries) ∧
      report =
        { meters := seen.consistentMeters device (Readout.ofEntries pipeline entries).configs
          cellsRead := (Readout.ofEntries pipeline entries).size
          reset := (seen.correct pipeline batch).1.accepted.length
          resetFailed := (seen.correct pipeline batch).1.failed.length
          undecodable := (Readout.ofEntries pipeline entries).undecodable.length } ∧
      after = (seen.correct pipeline batch).2 := by
  cases ended with
  | unknown missing =>
      rw [found] at missing
      cases missing
  | unread ownFound unread =>
      cases found.symm.trans ownFound
      rw [unread] at answered
      cases answered
  | @read _ _ connection readout seen batch ownFound read readoutEq seenEq batchEq =>
      cases found.symm.trans ownFound
      rw [read] at answered
      cases answered
      subst readoutEq
      exact ⟨connection, seen, batch, read, seenEq, batchEq, rfl, rfl⟩

/-- A read that fails is counted, and nothing else is done. -/
theorem Reconciled.of_unread {coordinator after : Coordinator Shadow Connection} {device : DeviceId}
    {report : Report} (ended : Reconciled coordinator device report after) {pipeline : Pipeline}
    (found : coordinator.pipeline? device = some pipeline) {error : ClientError}
    (unread : (Client.read coordinator.connection device pipeline.wireIds).1 = .error error) :
    report = .empty ∧ ∃ connection,
      Client.read coordinator.connection device pipeline.wireIds = (.error error, connection) ∧
        after = coordinator.observed connection := by
  cases ended with
  | unknown missing =>
      rw [found] at missing
      cases missing
  | @unread _ _ connection ownFound answered =>
      cases found.symm.trans ownFound
      rw [answered] at unread
      cases unread
      exact ⟨rfl, connection, answered, rfl⟩
  | read ownFound answered _ _ _ =>
      cases found.symm.trans ownFound
      rw [answered] at unread
      cases unread

theorem Reconciled.frame {coordinator after : Coordinator Shadow Connection}
    {device : DeviceId} {report : Report} (ended : Reconciled coordinator device report after) :
    after.pipelines = coordinator.pipelines ∧ after.intents = coordinator.intents := by
  cases ended with
  | unknown _ => exact ⟨rfl, rfl⟩
  | unread _ _ => exact ⟨rfl, rfl⟩
  | @read pipeline _ _ _ seen batch _ _ _ same _ =>
      obtain ⟨pipelines, intents, _⟩ := seen.correct_frame pipeline batch
      rw [pipelines, intents, same]
      exact ⟨rfl, rfl⟩

end Coordinator

end MeterSync
