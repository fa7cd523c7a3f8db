import MeterSync.Client.Recorded
import MeterSync.Client.Scripted
import MeterSync.Proofs.Coordinator.Run

/-!
# Exactly what a reconciliation does

Whatever the client has answered before, a reconciliation whose read covers no cell twice is
determined by the intents, by the cells that the shadow loses, and by the answer: the meters that it
reports, the counts, and the one write that it sends.
-/

set_option autoImplicit false

namespace MeterSync

/-! ## What is asked of a cell -/

/-- A meter as a device shows it: two uncolored bands with bursts, in force, and no unit. -/
def Meter.seen (device : DeviceId) (cell : CellId) (committed peak : Band) : Meter where
  device
  cell
  bands := [⟨.uncolored, committed.rate, some committed.burst⟩,
    ⟨.uncolored, peak.rate, some peak.burst⟩]
  unit := none
  state := .added

section Verdicts

variable (loses : CellHandle → Bool) (intents : IntentStore) (device : DeviceId)

/-- The observed configuration is what was asked for, and the shadow can show it. -/
def asIntended (config : CellConfig) : Bool :=
  !loses (config.handle device) &&
    (intents.lookup (config.handle device)).map (·.config) == some config

/-- The observed configuration calls for a reset. A cell that the shadow can show is reset if it has
bands that were not asked for; any other cell if it has bands or something was asked for. -/
def callsForReset (config : CellConfig) : Bool :=
  if loses (config.handle device) then
    !config.isDefault || (intents.lookup (config.handle device)).isSome
  else
    !config.isDefault &&
      (intents.lookup (config.handle device)).map (·.config) != some config

end Verdicts

/-- Entries for one cell are one and the same. -/
def Codec.Unambiguous (pipeline : Pipeline) (entries : List Wire.Entry) : Prop :=
  ∀ first ∈ entries, ∀ second ∈ entries, ∀ cell,
    decodeKey pipeline first = .ok cell → decodeKey pipeline second = .ok cell → first = second

/-- The entry addresses a cell of the pipeline but does not decode. -/
def Codec.isUndecodable (pipeline : Pipeline) (entry : Wire.Entry) : Bool :=
  (Codec.decodeKey pipeline entry).isOk && !(Codec.decode pipeline entry).isOk

/-- The entry without a configuration, which resets its cell. -/
def Wire.Entry.cleared (entry : Wire.Entry) : Wire.Entry :=
  { entry with config := none }

/-- The entries that a reconciliation writes: those of the cells whose configuration calls for a
reset, and then those of the cells that do not decode. -/
def resetEntries (loses : CellHandle → Bool) (intents : IntentStore) (device : DeviceId)
    (pipeline : Pipeline) (entries : List Wire.Entry) : List Wire.Entry :=
  (entries.filter fun entry =>
      (Codec.decode? pipeline entry).any (callsForReset loses intents device)).map (·.cleared) ++
    (entries.filter (Codec.isUndecodable pipeline)).map (·.cleared)

namespace Coordinator

section Judging

variable {Shadow Connection : Type} [ShadowStore Shadow]
  {coordinator : Coordinator Shadow Connection} {loses : CellHandle → Bool} {device : DeviceId}
  {config : CellConfig}

theorem judge_consistent_iff
    (shown : ShadowStore.find? coordinator.shadow (config.handle device) =
      if loses (config.handle device) then none else some config) {meter : Meter} :
    coordinator.judge device config = .consistent meter ↔
      asIntended loses coordinator.intents device config = true ∧
        config.observedMeter device = meter := by
  rw [judge, asIntended, shown]
  cases coordinator.intents.lookup (config.handle device) with
  | none => cases config.isDefault <;> simp
  | some intent =>
      by_cases same : intent.config = config <;>
        cases loses (config.handle device) <;> simp [same]

theorem correction?_eq
    (shown : ShadowStore.find? coordinator.shadow (config.handle device) =
      if loses (config.handle device) then none else some config) :
    coordinator.correction? device config =
      if callsForReset loses coordinator.intents device config then some (.reset config.cell)
      else none := by
  have sameAsReset : (some config == some (CellConfig.reset config.cell)) = config.isDefault := by
    rw [Bool.eq_iff_iff, CellConfig.isDefault_iff, beq_iff_eq, Option.some.injEq]
  rw [correction?, judge, callsForReset, ShadowStore.holds, shown]
  cases coordinator.intents.lookup (config.handle device) with
  | none =>
      cases loses (config.handle device) <;> cases isDefault : config.isDefault <;>
        simp [sameAsReset, isDefault]
  | some intent =>
      by_cases same : intent.config = config <;>
        cases loses (config.handle device) <;> cases isDefault : config.isDefault <;>
        simp [same, sameAsReset, isDefault]

end Judging

/-! ## The write -/

private theorem filterMap_eq_map_filter {Source Target : Type} {source : Source → Option Target}
    {keep : Source → Bool} {image : Source → Target} {values : List Source}
    (each : ∀ value ∈ values, source value = if keep value then some (image value) else none) :
    values.filterMap source = (values.filter keep).map image := by
  induction values with
  | nil => rfl
  | cons value values ih =>
      obtain ⟨here, later⟩ := List.forall_mem_cons.mp each
      rw [List.filterMap_cons, List.filter_cons, here, ih later]
      cases keep value <;> rfl

theorem undecodable?_encodeKey (pipeline : Pipeline) (entry : Wire.Entry) :
    (Codec.undecodable? pipeline entry).map (Codec.encodeKey pipeline) =
      if Codec.isUndecodable pipeline entry then some (.ok entry.cleared) else none := by
  rw [Codec.undecodable?, Codec.isUndecodable]
  cases decoded : Codec.decode pipeline entry with
  | ok config => simp [Except.isOk, Except.toBool]
  | error error =>
      cases key : Codec.decodeKey pipeline entry with
      | error error => simp [Except.toOption, Except.isOk, Except.toBool]
      | ok cell =>
          simp [Except.toOption, Except.isOk, Except.toBool, Codec.encodeKey_of_decodeKey key,
            Wire.Entry.cleared]

theorem undecodable_length (pipeline : Pipeline) (entries : List Wire.Entry) :
    (Readout.ofEntries pipeline entries).undecodable.length =
      entries.countP (Codec.isUndecodable pipeline) := by
  rw [Readout.ofEntries, List.length_filterMap_eq_countP]
  refine List.countP_congr fun entry _ => ?_
  have encoded := undecodable?_encodeKey pipeline entry
  cases shown : Codec.isUndecodable pipeline entry <;>
    cases cell : Codec.undecodable? pipeline entry <;> simp_all

section Writing

variable {Shadow Connection : Type} [ShadowStore Shadow] {loses : CellHandle → Bool}
  {device : DeviceId} {pipeline : Pipeline} {entries : List Wire.Entry}

/-- The resets that a readout calls for are encoded as the entries of their cells, cleared. -/
theorem encodeAll_corrections (coordinator : Coordinator Shadow Connection)
    (shown : ∀ config ∈ (Readout.ofEntries pipeline entries).configs,
      ShadowStore.find? coordinator.shadow (config.handle device) =
        if loses (config.handle device) then none else some config) :
    Codec.encodeAll pipeline
        (coordinator.corrections device (.ofEntries pipeline entries)).configs =
      .ok (resetEntries loses coordinator.intents device pipeline entries) := by
  rw [Codec.encodeAll_eq_ok_iff, corrections, resetEntries, List.map_append, List.map_append,
    List.map_map, List.map_map, List.map_map]
  congr 1
  · rw [Readout.ofEntries, List.filterMap_filterMap, List.map_filterMap]
    refine filterMap_eq_map_filter fun entry member => ?_
    cases decoded : Codec.decode pipeline entry with
    | error error => simp [Codec.decode?, decoded, Except.toOption]
    | ok config =>
        have observed := shown config (Readout.mem_configs.mpr ⟨entry, member, decoded⟩)
        have key := Codec.encodeKey_of_decodeKey (Codec.decodeKey_of_decode decoded)
        simp only [Codec.decode?, decoded, Except.toOption, Option.bind_some, Option.any_some,
          correction?_eq observed]
        split <;> simp [Codec.encode_reset, key, Wire.Entry.cleared]
  · rw [Readout.ofEntries, List.map_filterMap]
    refine filterMap_eq_map_filter fun entry _ => ?_
    simpa [Function.comp_def, Codec.encode_reset] using undecodable?_encodeKey pipeline entry

/-- The meters found to be as intended, in the order of the answer. -/
theorem consistentMeters_eq {coordinator : Coordinator Shadow Connection}
    {configs : List CellConfig}
    (shown : ∀ config ∈ configs, ShadowStore.find? coordinator.shadow (config.handle device) =
      if loses (config.handle device) then none else some config) :
    coordinator.consistentMeters device configs =
      (configs.filter (asIntended loses coordinator.intents device)).map
        (·.observedMeter device) := by
  refine filterMap_eq_map_filter fun config member => ?_
  have judged (meter : Meter) : coordinator.judge device config = .consistent meter ↔ _ :=
    judge_consistent_iff (shown config member)
  by_cases intended : asIntended loses coordinator.intents device config = true
  · rw [(judged _).mpr ⟨intended, rfl⟩, if_pos intended]
  · rw [if_neg intended]
    cases judgement : coordinator.judge device config with
    | consistent meter => exact absurd ((judged meter).mp judgement).1 intended
    | default => rfl
    | inconsistent => rfl

end Writing

/-! ## What every run keeps -/

section Runs

variable {Shadow Connection : Type} [ShadowStore Shadow] [LawfulShadow Shadow]
  {coordinator after : Coordinator Shadow Connection} {loses : CellHandle → Bool}

/-- The shadow shows nothing of the cells that it loses, and whatever is meant for a cell has
bands. -/
structure Kept (loses : CellHandle → Bool) (coordinator : Coordinator Shadow Connection) :
    Prop where
  loses_eq : LawfulShadow.loses coordinator.shadow = loses
  lost : ∀ handle, loses handle = true → ShadowStore.find? coordinator.shadow handle = none
  intended : ∀ handle intent, coordinator.intents.lookup handle = some intent →
    ∃ committed peak, intent.config.state = .modify committed peak

theorem Kept.settled (kept : coordinator.Kept loses) {pipeline : Pipeline} {operation : Operation}
    {config : CellConfig} (requested : pipeline.requested operation = .ok config) :
    ∀ handle intent, (coordinator.intents.settled operation config).lookup handle = some intent →
      ∃ committed peak, intent.config.state = .modify committed peak := by
  intro handle intent known
  rw [IntentStore.lookup_settled] at known
  split at known
  · split at known
    · cases known
    · rename_i keeps
      cases known
      exact Pipeline.requested_modify requested keeps
  · exact kept.intended handle intent known

theorem Kept.recorded (kept : coordinator.Kept loses) (device : DeviceId)
    (configs : List CellConfig) :
    LawfulShadow.loses (ShadowStore.record coordinator.shadow device configs) = loses ∧
      ∀ handle, loses handle = true →
        ShadowStore.find? (ShadowStore.record coordinator.shadow device configs) handle = none := by
  constructor
  · exact (ShadowStore.loses_record ..).trans kept.loses_eq
  · intro handle lost
    have own : LawfulShadow.loses coordinator.shadow handle = true := by
      rw [kept.loses_eq]
      exact lost
    rw [ShadowStore.find?_record_lost own]
    exact kept.lost handle lost

theorem Kept.synced {connection : Connection} (kept : coordinator.Kept loses) (device : DeviceId)
    (readout : Readout) : ((coordinator.observed connection).synced device readout).Kept loses :=
  have ⟨sameLoses, lost⟩ := kept.recorded device readout.configs
  ⟨sameLoses, lost, kept.intended⟩

/-- After a read that covers no cell twice, the shadow shows every configuration that was read,
except those of the cells that it loses. -/
theorem Kept.shown_of_read (kept : coordinator.Kept loses) (connection : Connection)
    (device : DeviceId) {pipeline : Pipeline} {entries : List Wire.Entry}
    (unambiguous : Codec.Unambiguous pipeline entries) :
    ∀ config ∈ (Readout.ofEntries pipeline entries).configs,
      ShadowStore.find?
          ((coordinator.observed connection).synced device (.ofEntries pipeline entries)).shadow
          (config.handle device) =
        if loses (config.handle device) then none else some config := by
  intro config member
  obtain ⟨entry, entryMember, decoded⟩ := Readout.mem_configs.mp member
  cases lost : loses (config.handle device) with
  | true =>
      obtain ⟨_, missing⟩ := kept.recorded device (Readout.ofEntries pipeline entries).configs
      exact missing (config.handle device) lost
  | false =>
      have own : LawfulShadow.loses coordinator.shadow (config.handle device) = false := by
        rw [kept.loses_eq]
        exact lost
      have last := Readout.latest?_of_decode decoded entryMember fun other otherMember otherKey =>
        unambiguous other otherMember entry entryMember config.cell otherKey
          (Codec.decodeKey_of_decode decoded)
      exact (ShadowStore.find?_record_kept own _).trans (by rw [last]; rfl)

/-- A configuration that was read and is as intended has two bands in order. -/
theorem Kept.observedMeter_eq (kept : coordinator.Kept loses) {device : DeviceId}
    {pipeline : Pipeline} {entries : List Wire.Entry} {config : CellConfig}
    (member : config ∈ (Readout.ofEntries pipeline entries).configs)
    (intended : asIntended loses coordinator.intents device config = true) :
    ∃ committed peak, config.state = .modify committed peak ∧ committed.AtMost peak ∧
      config.observedMeter device = .seen device config.cell committed peak := by
  obtain ⟨entry, _, decoded⟩ := Readout.mem_configs.mp member
  have regular := Codec.decode_regular decoded
  rw [asIntended, Bool.and_eq_true, beq_iff_eq, Option.map_eq_some_iff] at intended
  obtain ⟨_, intent, known, same⟩ := intended
  obtain ⟨committed, peak, bands⟩ := kept.intended _ intent known
  rw [same] at bands
  rw [bands] at regular
  cases regular with
  | modify ordered _ _ =>
      refine ⟨committed, peak, bands, ordered, ?_⟩
      rw [CellConfig.observedMeter, CellConfig.bands, bands]
      rfl

variable [Client Connection]

theorem Kept.process {operation : Operation} {result : Except OperationError Unit}
    (kept : coordinator.Kept loses) (ended : Processed coordinator operation result after) :
    after.Kept loses := by
  cases ended with
  | unknown _ => exact kept
  | unresolved _ _ => exact ⟨kept.loses_eq, kept.lost, kept.intended⟩
  | skipped _ requested _ => exact ⟨kept.loses_eq, kept.lost, kept.settled requested⟩
  | refused _ requested _ _ _ _ => exact ⟨kept.loses_eq, kept.lost, kept.settled requested⟩
  | @written _ config _ _ _ requested _ _ _ =>
      refine ⟨?_, ?_, kept.settled requested⟩
      · exact (LawfulShadow.loses_put ..).trans kept.loses_eq
      · intro handle lost
        have own : LawfulShadow.loses coordinator.shadow handle = true := by
          rw [kept.loses_eq]
          exact lost
        exact (ShadowStore.find?_put_lost own ..).trans (kept.lost handle lost)

theorem Kept.reconcile {device : DeviceId} {report : Report} (kept : coordinator.Kept loses)
    (ended : Reconciled coordinator device report after) : after.Kept loses := by
  cases ended with
  | unknown _ => exact kept
  | unread _ _ => exact ⟨kept.loses_eq, kept.lost, kept.intended⟩
  | @read pipeline _ _ readout seen batch _ _ _ seenEq _ =>
      obtain ⟨_, intents, shadow⟩ := seen.correct_frame pipeline batch
      have seenKept : seen.Kept loses := by
        rw [seenEq]
        exact kept.synced device readout
      obtain ⟨sameLoses, lost⟩ := seenKept.recorded batch.device
        (seen.correct pipeline batch).1.accepted
      rw [← shadow] at sameLoses lost
      exact ⟨sameLoses, lost, intents ▸ seenKept.intended⟩

theorem Kept.serve (kept : coordinator.Kept loses) (request : Request) :
    (coordinator.serve request).Kept loses := by
  cases request with
  | process operation => exact kept.process (coordinator.processed operation)
  | reconcile device => exact kept.reconcile (coordinator.reconciled device)

theorem Kept.serveAll (kept : coordinator.Kept loses) (requests : List Request) :
    (coordinator.serveAll requests).Kept loses :=
  serveAll_induction kept (fun _ request kept => kept.serve request) requests

end Runs

/-! ## Reports and calls -/

/-- The write of some resets with what it comes to. It is left out if there are none, and a reset
counts as taken if the answer has a status for it and the status is good. -/
inductive ResetsSent (device : DeviceId) (entries : List Wire.Entry) (reset resetFailed : Nat) :
    List ClientCall → Prop where
  | nothing :
      entries = [] → reset = 0 → resetFailed = 0 → ResetsSent device entries reset resetFailed []
  | unanswered {error : ClientError} :
      entries ≠ [] → reset = 0 → resetFailed = entries.length →
      ResetsSent device entries reset resetFailed [.write device entries (.error error)]
  | answered {statuses : List WriteStatus} :
      entries ≠ [] → reset = (statuses.take entries.length).count none →
      reset + resetFailed = entries.length →
      ResetsSent device entries reset resetFailed [.write device entries (.ok statuses)]

theorem ResetsSent.of_answer {batch : WriteBatch} {entries : List Wire.Entry}
    (sameLength : batch.configs.length = entries.length) (something : entries ≠ [])
    (answer : Except ClientError (List WriteStatus)) :
    ResetsSent batch.device entries (batch.outcome answer).accepted.length
      (batch.outcome answer).failed.length [.write batch.device entries answer] := by
  have partition := (batch.outcome answer).accepted_add_failed
  have configs := congrArg List.length (batch.outcome_configs answer)
  rw [List.length_map, sameLength] at configs
  rw [configs] at partition
  cases answer with
  | error error =>
      rw [WriteBatch.outcome, WriteBatch.accepted_allFailed, List.length_nil] at partition ⊢
      exact .unanswered something rfl (by omega)
  | ok statuses =>
      refine .answered something ?_ partition
      rw [WriteBatch.outcome, WriteBatch.accepted_answered_length, sameLength]

/-- What a reconciliation reports, sends and keeps, told from the answer to its read. -/
structure Exact {Shadow Connection : Type} (loses : CellHandle → Bool) (device : DeviceId)
    (pipeline : Pipeline) (entries : List Wire.Entry)
    (before after : Coordinator Shadow (RecordedClient Connection)) (report : Report) : Prop where
  meters : report.meters =
    ((entries.filterMap (Codec.decode? pipeline)).filter
      (asIntended loses before.intents device)).map (·.observedMeter device)
  bands : ∀ config ∈ entries.filterMap (Codec.decode? pipeline),
    asIntended loses before.intents device config = true →
      ∃ committed peak, config.state = .modify committed peak ∧ committed.AtMost peak ∧
        config.observedMeter device = .seen device config.cell committed peak
  cellsRead : report.cellsRead =
    entries.countP fun entry => (Codec.decodeKey pipeline entry).isOk
  undecodable : report.undecodable = entries.countP (Codec.isUndecodable pipeline)
  calls : ∃ writes,
    after.connection.calls =
      before.connection.calls ++ .read device pipeline.wireIds (.ok entries) :: writes ∧
    ResetsSent device (resetEntries loses before.intents device pipeline entries) report.reset
      report.resetFailed writes
  intents : after.intents = before.intents

section Exactness

variable {Shadow Connection : Type} [ShadowStore Shadow] [Client Connection]

theorem correct_sends (coordinator : Coordinator Shadow (RecordedClient Connection))
    {pipeline : Pipeline} {batch : WriteBatch} {entries : List Wire.Entry}
    (encoded : Codec.encodeAll pipeline batch.configs = .ok entries) :
    ∃ writes,
      (coordinator.correct pipeline batch).2.connection.calls =
        coordinator.connection.calls ++ writes ∧
      ResetsSent batch.device entries (coordinator.correct pipeline batch).1.accepted.length
        (coordinator.correct pipeline batch).1.failed.length writes := by
  have sameLength : batch.configs.length = entries.length := by
    simpa using congrArg List.length (Codec.encodeAll_eq_ok_iff.mp encoded)
  by_cases nothing : batch.configs = []
  · rw [correct_of_isEmpty coordinator pipeline nothing]
    rw [nothing, List.length_nil] at sameLength
    exact ⟨[], (List.append_nil _).symm,
      .nothing (List.eq_nil_of_length_eq_zero sameLength.symm) rfl rfl⟩
  · have something : entries ≠ [] := by
      rintro rfl
      exact nothing (List.eq_nil_of_length_eq_zero sameLength)
    obtain ⟨outcome, connection⟩ := coordinator.correct_of_submit pipeline nothing
    rw [outcome, connection, Client.submit_of_encodeAll encoded]
    exact ⟨_, rfl, .of_answer sameLength something _⟩

variable [LawfulShadow Shadow]

theorem Kept.exact {before after : Coordinator Shadow (RecordedClient Connection)}
    {loses : CellHandle → Bool} (kept : before.Kept loses) {device : DeviceId} {report : Report}
    (ended : Reconciled before device report after) {pipeline : Pipeline}
    (found : before.pipeline? device = some pipeline) {entries : List Wire.Entry}
    (answered : (Client.read before.connection device pipeline.wireIds).1 = .ok entries)
    (distinct : (entries.filterMap fun entry =>
      (Codec.decodeKey pipeline entry).toOption).Nodup) :
    Exact loses device pipeline entries before after report := by
  obtain ⟨connection, seen, batch, read, seenEq, batchEq, rfl, rfl⟩ := ended.of_read found answered
  have unambiguous : Codec.Unambiguous pipeline entries :=
    fun _ firstMember _ secondMember _ firstKey secondKey =>
      Readout.key_unique distinct firstMember secondMember firstKey secondKey
  have shown := kept.shown_of_read connection device unambiguous
  rw [← seenEq] at shown
  have sameIntents : seen.intents = before.intents := by
    rw [seenEq]
    rfl
  have sameDevice : batch.device = device := congrArg WriteBatch.device batchEq
  have sameCalls : seen.connection.calls =
      before.connection.calls ++ [.read device pipeline.wireIds (.ok entries)] := by
    rw [seenEq]
    exact RecordedClient.calls_of_read read
  have meters := consistentMeters_eq shown
  have encoded := seen.encodeAll_corrections shown
  rw [sameIntents] at meters encoded
  rw [← batchEq] at encoded
  obtain ⟨writes, calls, sent⟩ := correct_sends seen encoded
  rw [sameCalls, List.append_assoc] at calls
  rw [sameDevice] at sent
  constructor
  · exact meters
  · exact fun config member intended => kept.observedMeter_eq member intended
  · exact Readout.size_ofEntries pipeline entries
  · exact undecodable_length pipeline entries
  · exact ⟨writes, calls, sent⟩
  · exact (seen.correct_frame pipeline batch).2.1.trans sameIntents

end Exactness

/-- A coordinator that has done nothing yet, whose shadow loses some cells, with a client whose
calls are recorded. -/
def recorded {Connection : Type} (lockStripes : UInt64) (pipelines : PipelineTable)
    (loses : CellHandle → Bool) (connection : Connection) :
    Coordinator LossyShadow (RecordedClient Connection) :=
  .new lockStripes pipelines ⟨∅, loses⟩ ⟨connection, []⟩

theorem recorded_kept {Connection : Type} (lockStripes : UInt64) (pipelines : PipelineTable)
    (loses : CellHandle → Bool) (connection : Connection) :
    (recorded lockStripes pipelines loses connection).Kept loses := by
  constructor
  · rfl
  · exact fun handle _ => CellTable.find?_empty handle
  · intro handle intent known
    rw [recorded, new, IntentStore.lookup_empty] at known
    cases known

/-- After every run against any client, a reconciliation whose read covers no cell twice does
exactly what the intents and the answer call for. -/
theorem reconcile_exact {Connection : Type} [Client Connection] (lockStripes : UInt64)
    (pipelines : PipelineTable) (loses : CellHandle → Bool) (connection : Connection)
    (requests : List Request) {before : Coordinator LossyShadow (RecordedClient Connection)}
    (reached : before = (recorded lockStripes pipelines loses connection).serveAll requests)
    {device : DeviceId} {pipeline : Pipeline} (found : pipelines.get? device = some pipeline)
    {entries : List Wire.Entry}
    (answered : (Client.read before.connection device pipeline.wireIds).1 = .ok entries)
    (distinct : (entries.filterMap fun entry =>
      (Codec.decodeKey pipeline entry).toOption).Nodup) :
    Exact loses device pipeline entries before (before.reconcile device).2
      (before.reconcile device).1 := by
  have kept : before.Kept loses := by
    rw [reached]
    exact (recorded_kept lockStripes pipelines loses connection).serveAll requests
  have known : before.pipeline? device = some pipeline := by
    rw [pipeline?, reached, serveAll_pipelines]
    exact found
  exact kept.exact (before.reconciled device) known answered distinct

/-- An answer with a cell that is as intended, one that is not, one that is default, one that the
shadow loses, one that does not decode, and an entry of another array. -/
def mixedAnswer : List Wire.Entry :=
  [⟨5, some 0, some Sample.numbers⟩, ⟨5, some 1, some Sample.numbers⟩, ⟨5, some 2, none⟩,
    ⟨5, some 3, some Sample.numbers⟩, ⟨5, some 4, some ⟨-1, 0, 0, 0⟩⟩, ⟨6, some 0, none⟩]

/-- A client that takes the addition and then gives the mixed answer. -/
def mixedClient : ScriptedClient where
  simulator := .ofDevices [(Sample.device, Sample.pipeline)]
  sent := []
  writeAnswers := []
  readAnswers := [.ok mixedAnswer]

/-- The state after the addition; the shadow loses the fourth cell. -/
def mixedSample : Coordinator LossyShadow (RecordedClient ScriptedClient) :=
  (recorded 1 Sample.pipelines (fun handle => handle.cell.index = 3) mixedClient).serveAll
    [.process Sample.addition]

theorem reconcile_exact_mixed :
    Exact (fun handle => handle.cell.index = 3) Sample.device Sample.pipeline mixedAnswer
      mixedSample (mixedSample.reconcile Sample.device).2
      (mixedSample.reconcile Sample.device).1 :=
  reconcile_exact 1 Sample.pipelines (fun handle => handle.cell.index = 3) mixedClient
    [.process Sample.addition] rfl (by decide +kernel) (by decide +kernel) (by decide +kernel)

end Coordinator

end MeterSync
