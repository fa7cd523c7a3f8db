import MeterSync.Proofs.Exactness

/-!
# Reconciliations only erase

Whatever a client answers, a reconciliation makes one read and then at most one write, and it writes
nothing but resets of cells that the answer addressed. Every cell that an answer can address can be
encoded again, so no entry, however strange, keeps the others from being reset.
-/

set_option autoImplicit false

namespace MeterSync

/-! ## Addressed cells -/

/-- One of the entries is for the cell. -/
def Codec.Addressed (pipeline : Pipeline) (entries : List Wire.Entry) (cell : CellId) : Prop :=
  ∃ entry ∈ entries, decodeKey pipeline entry = .ok cell

/-- The entry has an index and no configuration, and is for a cell that other entries address. -/
structure Wire.Entry.Erases (pipeline : Pipeline) (entries : List Wire.Entry) (entry : Wire.Entry) :
    Prop where
  config : entry.config = none
  index : entry.index.isSome
  cell : ∃ cell, Codec.decodeKey pipeline entry = .ok cell ∧
    Codec.Addressed pipeline entries cell

theorem Wire.Entry.erases_of_encodeKey {pipeline : Pipeline} {entries : List Wire.Entry}
    {cell : CellId} (addressed : Codec.Addressed pipeline entries cell) {entry : Wire.Entry}
    (encoded : Codec.encodeKey pipeline cell = .ok entry) : entry.Erases pipeline entries := by
  obtain ⟨_, _, _, _, same⟩ := Codec.encodeKey_eq_ok_iff.mp encoded
  refine ⟨Codec.encodeKey_config encoded, ?_, cell, Codec.decodeKey_of_encodeKey encoded, addressed⟩
  rw [← same]
  rfl

theorem Codec.encodeAll_resets {pipeline : Pipeline} {entries : List Wire.Entry}
    {configs : List CellConfig}
    (resets : ∀ config ∈ configs,
      config = .reset config.cell ∧ Addressed pipeline entries config.cell) :
    ∃ sent, encodeAll pipeline configs = .ok sent ∧
      ∀ entry ∈ sent, entry.Erases pipeline entries := by
  induction configs with
  | nil => exact ⟨[], rfl, List.forall_mem_nil _⟩
  | cons config configs ih =>
      obtain ⟨⟨reset, addressed⟩, rest⟩ := List.forall_mem_cons.mp resets
      obtain ⟨sent, encodedRest, erase⟩ := ih rest
      obtain ⟨seen, seenMember, key⟩ := addressed
      have encoded := encodeKey_of_decodeKey key
      refine ⟨_ :: sent, ?_,
        List.forall_mem_cons.mpr ⟨Wire.Entry.erases_of_encodeKey ⟨seen, seenMember, key⟩ encoded,
          erase⟩⟩
      rw [← encode_reset, ← reset] at encoded
      rw [encodeAll, encoded, encodedRest]
      rfl

theorem Readout.addressed_of_configs {pipeline : Pipeline} {entries : List Wire.Entry}
    {config : CellConfig} (member : config ∈ (ofEntries pipeline entries).configs) :
    Codec.Addressed pipeline entries config.cell := by
  obtain ⟨entry, entryMember, decoded⟩ := mem_configs.mp member
  exact ⟨entry, entryMember, Codec.decodeKey_of_decode decoded⟩

namespace Coordinator

section Corrections

variable {Shadow Connection : Type} [ShadowStore Shadow]

theorem addressed_of_corrections {coordinator : Coordinator Shadow Connection} {device : DeviceId}
    {pipeline : Pipeline} {entries : List Wire.Entry} {config : CellConfig}
    (member : config ∈ (coordinator.corrections device (.ofEntries pipeline entries)).configs) :
    Codec.Addressed pipeline entries config.cell := by
  obtain ⟨seen, seenMember, corrected⟩ | ⟨cell, undecodable, rfl⟩ := mem_corrections.mp member
  · have addressed := Readout.addressed_of_configs seenMember
    rwa [correction?_eq_some corrected]
  · obtain ⟨entry, entryMember, key, _⟩ := Readout.mem_undecodable.mp undecodable
    exact ⟨entry, entryMember, key⟩

/-- Whatever was answered, the resets that it calls for are encoded. -/
theorem corrections_encoded (coordinator : Coordinator Shadow Connection) (device : DeviceId)
    (pipeline : Pipeline) (entries : List Wire.Entry) :
    ∃ sent, Codec.encodeAll pipeline
        (coordinator.corrections device (.ofEntries pipeline entries)).configs = .ok sent ∧
      ∀ entry ∈ sent, entry.Erases pipeline entries :=
  Codec.encodeAll_resets fun _ member =>
    ⟨corrections_reset member, addressed_of_corrections member⟩

end Corrections

/-! ## What a reconciliation erases -/

/-- What a reconciliation sends and leaves alone, once its read was answered with some entries. -/
structure OnlyErases {Shadow Connection : Type} [ShadowStore Shadow] (device : DeviceId)
    (pipeline : Pipeline) (entries : List Wire.Entry) (writes : List ClientCall)
    (before after : Coordinator Shadow Connection) (report : Report) : Prop where
  writes : ∃ sent, ResetsSent device sent report.reset report.resetFailed writes ∧
    ∀ entry ∈ sent, entry.Erases pipeline entries
  shadow : ∀ handle,
    handle.device ≠ device ∨ ¬ Codec.Addressed pipeline entries handle.cell →
      ShadowStore.find? after.shadow handle = ShadowStore.find? before.shadow handle

section Reconciliations

variable {Shadow Connection : Type} [ShadowStore Shadow] [LawfulShadow Shadow] [Client Connection]

theorem find?_of_unaddressed {before : Coordinator Shadow Connection} {device : DeviceId}
    {pipeline : Pipeline} {entries : List Wire.Entry} {connection : Connection}
    {seen : Coordinator Shadow Connection}
    (seenEq : seen = (before.observed connection).synced device (.ofEntries pipeline entries))
    {batch : WriteBatch}
    (batchEq : batch = seen.corrections device (.ofEntries pipeline entries))
    {handle : CellHandle}
    (elsewhere : handle.device ≠ device ∨ ¬ Codec.Addressed pipeline entries handle.cell) :
    ShadowStore.find? (seen.correct pipeline batch).2.shadow handle =
      ShadowStore.find? before.shadow handle := by
  have apart {config : CellConfig} (addressed : Codec.Addressed pipeline entries config.cell) :
      config.handle device ≠ handle := by
    rintro rfl
    obtain otherDevice | unaddressed := elsewhere
    · exact otherDevice rfl
    · exact unaddressed addressed
  have sameDevice : batch.device = device := congrArg WriteBatch.device batchEq
  rw [(seen.correct_frame pipeline batch).2.2, sameDevice]
  calc ShadowStore.find?
        (ShadowStore.record seen.shadow device (seen.correct pipeline batch).1.accepted) handle
      = ShadowStore.find? seen.shadow handle := by
        refine ShadowStore.find?_record_elsewhere (fun config taken => apart ?_) _
        have member := BatchOutcome.mem_accepted taken
        rw [correct_configs, batchEq] at member
        exact addressed_of_corrections member
    _ = ShadowStore.find? before.shadow handle := by
        rw [seenEq]
        exact ShadowStore.find?_record_elsewhere
          (fun config member => apart (Readout.addressed_of_configs member)) _

theorem Reconciled.only_erases {before after : Coordinator Shadow (RecordedClient Connection)}
    {device : DeviceId} {report : Report} (ended : Reconciled before device report after)
    {pipeline : Pipeline} (found : before.pipeline? device = some pipeline)
    {entries : List Wire.Entry}
    (answered : (Client.read before.connection device pipeline.wireIds).1 = .ok entries) :
    ∃ writes,
      after.connection.calls =
        before.connection.calls ++ .read device pipeline.wireIds (.ok entries) :: writes ∧
      OnlyErases device pipeline entries writes before after report := by
  obtain ⟨connection, seen, batch, read, seenEq, batchEq, rfl, rfl⟩ := ended.of_read found answered
  have sameDevice : batch.device = device := congrArg WriteBatch.device batchEq
  have seenCalls : seen.connection.calls =
      before.connection.calls ++ [.read device pipeline.wireIds (.ok entries)] := by
    rw [seenEq]
    exact RecordedClient.calls_of_read read
  obtain ⟨sent, encoded, erase⟩ := seen.corrections_encoded device pipeline entries
  rw [← batchEq] at encoded
  obtain ⟨writes, calls, resetsSent⟩ := correct_sends seen encoded
  rw [seenCalls, List.append_assoc] at calls
  rw [sameDevice] at resetsSent
  exact ⟨writes, calls, ⟨sent, resetsSent, erase⟩,
    fun handle elsewhere => find?_of_unaddressed seenEq batchEq elsewhere⟩

/-- A reconciliation reads the arrays of its device, which are all known, and writes at most once,
and then resets alone, of cells that the answer addressed. The batch of resets can always be
encoded, whatever was answered. Intents stay, and so does the shadow of every other cell. -/
theorem reconcile_only_erases (before : Coordinator Shadow (RecordedClient Connection))
    (device : DeviceId) :
    let report := (before.reconcile device).1
    let after := (before.reconcile device).2
    after.intents = before.intents ∧
      (before.pipeline? device = none → report = .empty ∧ after = before) ∧
      ∀ pipeline, before.pipeline? device = some pipeline →
        Codec.wireIds pipeline (pipeline.arrays.map (·.id)) = .ok pipeline.wireIds ∧
        (∀ (seen : Coordinator Shadow (RecordedClient Connection)) (entries : List Wire.Entry),
          ∃ sent, Codec.encodeAll pipeline
            (seen.corrections device (.ofEntries pipeline entries)).configs = .ok sent) ∧
        (∀ error, (Client.read before.connection device pipeline.wireIds).1 = .error error →
          report = .empty ∧
            after.connection.calls =
              before.connection.calls ++ [.read device pipeline.wireIds (.error error)] ∧
            after.shadow = before.shadow) ∧
        ∀ entries, (Client.read before.connection device pipeline.wireIds).1 = .ok entries →
          ∃ writes,
            after.connection.calls =
              before.connection.calls ++ .read device pipeline.wireIds (.ok entries) :: writes ∧
            OnlyErases device pipeline entries writes before after report := by
  intro report after
  have ended : Reconciled before device report after := before.reconciled device
  refine ⟨ended.frame.2, ?_, ?_⟩
  · intro missing
    simp only [report, after, reconcile, missing, and_self]
  · intro pipeline found
    refine ⟨Codec.wireIds_arrays pipeline, ?_, ?_, ?_⟩
    · intro seen entries
      obtain ⟨sent, encoded, _⟩ := seen.corrections_encoded device pipeline entries
      exact ⟨sent, encoded⟩
    · intro error unread
      obtain ⟨nothing, connection, read, observed⟩ := ended.of_unread found unread
      rw [observed]
      exact ⟨nothing, RecordedClient.calls_of_read read, rfl⟩
    · intro entries answered
      exact ended.only_erases found answered

end Reconciliations

/-- An answer that shows a cell twice, once with numbers that do not decode, and a cell that does
not exist, beside entries of another array, without an index and with a negative one. -/
def hostileAnswer : List Wire.Entry :=
  [⟨5, some 0, some ⟨7, 7, 8, 8⟩⟩, ⟨6, some 0, some Sample.numbers⟩, ⟨5, none, some Sample.numbers⟩,
    ⟨5, some 0, some ⟨-1, 0, 0, 0⟩⟩, ⟨5, some (-1), none⟩, ⟨5, some 9, some Sample.numbers⟩]

/-- Nothing is asked for, and the next read is answered in that way. -/
def hostileStart : Coordinator ShadowTable (RecordedClient ScriptedClient) :=
  .new 1 Sample.pipelines ∅
    { connection :=
        { simulator := .ofDevices [(Sample.device, Sample.pipeline)]
          sent := []
          writeAnswers := []
          readAnswers := [.ok hostileAnswer] }
      calls := [] }

theorem hostile_answer_erased :
    (hostileStart.reconcile Sample.device).1 = ⟨[], 3, 2, 1, 1⟩ ∧
      (hostileStart.reconcile Sample.device).2.connection.connection.sent =
        [(Sample.device, [⟨5, some 0, none⟩, ⟨5, some 9, none⟩, ⟨5, some 0, none⟩])] ∧
      ∃ writes,
        (hostileStart.reconcile Sample.device).2.connection.calls =
          .read Sample.device [5] (.ok hostileAnswer) :: writes ∧
        OnlyErases Sample.device Sample.pipeline hostileAnswer writes hostileStart
          (hostileStart.reconcile Sample.device).2 (hostileStart.reconcile Sample.device).1 := by
  have found : hostileStart.pipeline? Sample.device = some Sample.pipeline := by decide +kernel
  have answered : (Client.read hostileStart.connection Sample.device Sample.pipeline.wireIds).1 =
      .ok hostileAnswer := rfl
  obtain ⟨_, _, known⟩ := reconcile_only_erases hostileStart Sample.device
  obtain ⟨_, _, _, erases⟩ := known Sample.pipeline found
  exact ⟨by decide +kernel, by decide +kernel, erases hostileAnswer answered⟩

end Coordinator

end MeterSync
