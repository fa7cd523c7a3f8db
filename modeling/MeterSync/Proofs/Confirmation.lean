import MeterSync.Client.Recorded
import MeterSync.Proofs.Coordinator.Run

/-!
# The shadow shows what was confirmed last

An answer of the client confirms entries: a read those that it found, and a write those whose own
status is good. The shadow of a cell is what the latest of these entries decodes to. Nothing else
that happens in a run puts anything into the shadow.
-/

set_option autoImplicit false

namespace MeterSync

namespace ClientCall

def device : ClientCall → DeviceId
  | .write device _ _ => device
  | .read device _ _ => device

/-- The entries that the answer to a call confirms, in order. Entries without a status are not
confirmed, and surplus statuses count for nothing. -/
def confirmed : ClientCall → List Wire.Entry
  | .write _ entries (.ok statuses) =>
    ((entries.zip statuses).filter fun answered => answered.2.isNone).map (·.1)
  | .read _ _ (.ok entries) => entries
  | .write _ _ (.error _) => []
  | .read _ _ (.error _) => []

end ClientCall

/-- What the confirmed entries of some calls say of a cell, the latest last. Entries that decode to
no configuration of the cell say nothing of it. -/
def confirmations (pipelines : PipelineTable) (calls : List ClientCall) (handle : CellHandle) :
    List CellConfig :=
  match pipelines.get? handle.device with
  | none => []
  | some pipeline =>
    (((calls.filter (·.device = handle.device)).flatMap (·.confirmed)).filterMap
      (Codec.decode? pipeline)).filter (·.cell = handle.cell)

def lastConfirmed (pipelines : PipelineTable) (calls : List ClientCall) (handle : CellHandle) :
    Option CellConfig :=
  (confirmations pipelines calls handle).getLast?

theorem confirmations_append (pipelines : PipelineTable) (earlier later : List ClientCall)
    (handle : CellHandle) :
    confirmations pipelines (earlier ++ later) handle =
      confirmations pipelines earlier handle ++ confirmations pipelines later handle := by
  rw [confirmations, confirmations, confirmations]
  cases pipelines.get? handle.device with
  | none => rfl
  | some pipeline =>
      simp only [List.filter_append, List.flatMap_append, List.filterMap_append]

theorem lastConfirmed_append (pipelines : PipelineTable) (earlier later : List ClientCall)
    (handle : CellHandle) :
    lastConfirmed pipelines (earlier ++ later) handle =
      (lastConfirmed pipelines later handle).or (lastConfirmed pipelines earlier handle) := by
  rw [lastConfirmed, confirmations_append, List.getLast?_append]
  rfl

theorem CellConfig.latest?_eq_getLast? (configs : List CellConfig) (cell : CellId) :
    latest? configs cell = (configs.filter (·.cell = cell)).getLast? := by
  rw [latest?, ← List.head?_filter, List.filter_reverse, List.head?_reverse]

/-- Calls to one device confirm nothing of the cells of another. -/
theorem lastConfirmed_of_device {pipelines : PipelineTable} {device : DeviceId}
    {pipeline : Pipeline} (found : pipelines.get? device = some pipeline)
    {calls : List ClientCall} (own : ∀ call ∈ calls, call.device = device)
    {configs : List CellConfig}
    (confirm : (calls.flatMap (·.confirmed)).filterMap (Codec.decode? pipeline) = configs)
    (handle : CellHandle) :
    lastConfirmed pipelines calls handle =
      if handle.device = device then CellConfig.latest? configs handle.cell else none := by
  by_cases here : handle.device = device
  · have all : calls.filter (·.device = device) = calls :=
      List.filter_eq_self.mpr fun call member => by simpa using own call member
    rw [if_pos here, lastConfirmed, confirmations, here]
    simp only [found, all, confirm, CellConfig.latest?_eq_getLast?]
  · have none : calls.filter (·.device = handle.device) = [] := by
      rw [List.filter_eq_nil_iff]
      intro call member same
      exact here ((of_decide_eq_true same).symm.trans (own call member))
    rw [if_neg here, lastConfirmed, confirmations]
    cases pipelines.get? handle.device with
    | none => rfl
    | some pipeline => simp [none]

/-! ## What a batch confirms -/

/-- The entries whose own status is good are those of the configurations that were taken. -/
theorem confirmed_of_statuses {pipeline : Pipeline} {device : DeviceId}
    {configs : List CellConfig} {entries : List Wire.Entry}
    (regular : ∀ config ∈ configs, config.state.Regular)
    (encoded : configs.map (Codec.encode pipeline) = entries.map .ok)
    (statuses : List WriteStatus) :
    (ClientCall.write device entries (.ok statuses)).confirmed.filterMap
        (Codec.decode? pipeline) =
      BatchOutcome.accepted ⟨device, alignOutcomes configs statuses⟩ := by
  rw [ClientCall.confirmed]
  induction configs generalizing entries statuses with
  | nil =>
      cases entries with
      | nil => rfl
      | cons entry entries => cases encoded
  | cons config configs ih =>
      cases entries with
      | nil => cases encoded
      | cons entry entries =>
          obtain ⟨here, later⟩ := List.cons.inj encoded
          obtain ⟨own, rest⟩ := List.forall_mem_cons.mp regular
          cases statuses with
          | nil =>
              have confirmed := ih rest later []
              rw [List.zip_nil_right] at confirmed ⊢
              rw [alignOutcomes, BatchOutcome.accepted_cons, if_neg (Option.some_ne_none _)]
              exact confirmed
          | cons status statuses =>
              have confirmed := ih rest later statuses
              rw [alignOutcomes, BatchOutcome.accepted_cons, ← confirmed, List.zip_cons_cons]
              cases status with
              | some reason => rfl
              | none =>
                  have decoded : Codec.decode? pipeline entry = some config := by
                    rw [Codec.decode?, Codec.decode_of_encode own here]
                    rfl
                  simp [decoded]

/-- Submitting a batch makes calls to its device alone, and they confirm what was taken. -/
theorem RecordedClient.submit_confirms {Connection : Type} [Client Connection]
    {pipeline : Pipeline} (batch : WriteBatch)
    (regular : ∀ config ∈ batch.configs, config.state.Regular)
    (client : RecordedClient Connection) :
    ∃ calls, (Client.submit pipeline batch client).2.calls = client.calls ++ calls ∧
      (∀ call ∈ calls, call.device = batch.device) ∧
      (calls.flatMap (·.confirmed)).filterMap (Codec.decode? pipeline) =
        (Client.submit pipeline batch client).1.accepted := by
  cases encoded : Codec.encodeAll pipeline batch.configs with
  | error error =>
      refine ⟨[], ?_, ?_, ?_⟩
      · simp only [Client.submit, encoded, List.append_nil]
      · exact List.forall_mem_nil _
      · simp only [Client.submit, encoded, WriteBatch.accepted_allFailed]
        rfl
  | ok entries =>
      rw [Client.submit_of_encodeAll encoded]
      refine ⟨_, rfl, List.forall_mem_singleton.mpr rfl, ?_⟩
      rw [List.flatMap_singleton]
      change _ = (batch.outcome (Client.write client.connection batch.device entries).1).accepted
      cases (Client.write client.connection batch.device entries).1 with
      | error error => exact (WriteBatch.accepted_allFailed batch error.message).symm
      | ok statuses =>
          exact confirmed_of_statuses regular (Codec.encodeAll_eq_ok_iff.mp encoded) statuses

theorem RecordedClient.submit_unrecorded {Connection : Type} [Client Connection]
    (pipeline : Pipeline) (batch : WriteBatch) (client : RecordedClient Connection) :
    Client.submit pipeline batch client.connection =
      ((Client.submit pipeline batch client).1,
        (Client.submit pipeline batch client).2.connection) := by
  cases encoded : Codec.encodeAll pipeline batch.configs with
  | error error => simp only [Client.submit, encoded]
  | ok entries =>
      rw [Client.submit_of_encodeAll encoded, Client.submit_of_encodeAll encoded]
      rfl

/-! ## What a run confirms -/

namespace Coordinator

section Confirmations

variable {Connection : Type}
  {coordinator after : Coordinator ShadowTable (RecordedClient Connection)}

/-- The calls made in between confirm exactly what is new in the shadow. -/
structure Confirms (coordinator after : Coordinator ShadowTable (RecordedClient Connection))
    (calls : List ClientCall) : Prop where
  made : after.connection.calls = coordinator.connection.calls ++ calls
  shown : ∀ handle, ShadowStore.find? after.shadow handle =
    (lastConfirmed coordinator.pipelines calls handle).or
      (ShadowStore.find? coordinator.shadow handle)

theorem Confirms.nothing (same : after.shadow = coordinator.shadow)
    (noCalls : after.connection = coordinator.connection) : Confirms coordinator after [] := by
  constructor
  · rw [noCalls, List.append_nil]
  · intro handle
    rw [same, lastConfirmed, confirmations]
    cases coordinator.pipelines.get? handle.device <;> rfl

/-- Recording what calls to one device confirm keeps the shadow and the calls together. -/
theorem Confirms.record {device : DeviceId} {pipeline : Pipeline}
    (found : coordinator.pipeline? device = some pipeline) {calls : List ClientCall}
    (own : ∀ call ∈ calls, call.device = device) {configs : List CellConfig}
    (confirm : (calls.flatMap (·.confirmed)).filterMap (Codec.decode? pipeline) = configs)
    (made : after.connection.calls = coordinator.connection.calls ++ calls)
    (recorded : after.shadow = ShadowStore.record coordinator.shadow device configs) :
    Confirms coordinator after calls := by
  refine ⟨made, fun handle => ?_⟩
  rw [recorded, ShadowStore.find?_record, lastConfirmed_of_device found own confirm]
  have kept : LawfulShadow.loses coordinator.shadow handle = false := rfl
  by_cases here : handle.device = device
  · rw [if_pos ⟨here, kept⟩, if_pos here]
  · rw [if_neg fun both => here both.1, if_neg here, Option.none_or]

theorem Confirms.trans {between : Coordinator ShadowTable (RecordedClient Connection)}
    {earlier later : List ClientCall} (first : Confirms coordinator between earlier)
    (same : between.pipelines = coordinator.pipelines) (second : Confirms between after later) :
    Confirms coordinator after (earlier ++ later) := by
  constructor
  · rw [second.made, first.made, List.append_assoc]
  · intro handle
    rw [second.shown, first.shown, same, lastConfirmed_append, Option.or_assoc]

variable [Client Connection]

theorem Processed.confirms {operation : Operation} {result : Except OperationError Unit}
    (ended : Processed coordinator operation result after) :
    ∃ calls, Confirms coordinator after calls := by
  cases ended with
  | unknown _ => exact ⟨[], .nothing rfl rfl⟩
  | unresolved _ _ => exact ⟨[], .nothing rfl rfl⟩
  | skipped _ _ _ => exact ⟨[], .nothing rfl rfl⟩
  | @refused pipeline config _ _ _ _ found requested _ submitted _ nothing =>
      obtain ⟨_, regular⟩ := Pipeline.requested_spec requested
      obtain ⟨calls, made, own, confirm⟩ := RecordedClient.submit_confirms
        ⟨operation.meter.device, [config]⟩ (List.forall_mem_singleton.mpr regular)
        coordinator.connection
      rw [submitted] at made confirm
      rw [nothing] at confirm
      exact ⟨calls, .record found own confirm made rfl⟩
  | @written pipeline config _ _ found requested _ submitted taken =>
      obtain ⟨_, regular⟩ := Pipeline.requested_spec requested
      obtain ⟨calls, made, own, confirm⟩ := RecordedClient.submit_confirms
        ⟨operation.meter.device, [config]⟩ (List.forall_mem_singleton.mpr regular)
        coordinator.connection
      rw [submitted] at made confirm
      rw [taken] at confirm
      refine ⟨calls, .record found own confirm made ?_⟩
      rw [ShadowStore.record_cons, Pipeline.requested_handle requested]
      rfl

/-- Resets confirm what was taken of them. -/
theorem correct_confirms (coordinator : Coordinator ShadowTable (RecordedClient Connection))
    {pipeline : Pipeline} {batch : WriteBatch}
    (found : coordinator.pipeline? batch.device = some pipeline)
    (resets : ∀ config ∈ batch.configs, config = .reset config.cell) :
    ∃ calls, Confirms coordinator (coordinator.correct pipeline batch).2 calls := by
  obtain ⟨_, _, recorded⟩ := coordinator.correct_frame pipeline batch
  by_cases nothing : batch.configs = []
  · rw [correct_of_isEmpty coordinator pipeline nothing]
    exact ⟨[], .nothing rfl rfl⟩
  · have regular : ∀ config ∈ batch.configs, config.state.Regular := by
      intro config member
      rw [resets config member]
      exact .reset
    obtain ⟨outcome, connection⟩ := coordinator.correct_of_submit pipeline nothing
    obtain ⟨calls, made, own, confirm⟩ :=
      RecordedClient.submit_confirms batch regular coordinator.connection
    rw [← outcome] at confirm
    rw [← connection] at made
    exact ⟨calls, .record found own confirm made recorded⟩

theorem Reconciled.confirms {device : DeviceId} {report : Report}
    (ended : Reconciled coordinator device report after) :
    ∃ calls, Confirms coordinator after calls := by
  cases ended with
  | unknown _ => exact ⟨[], .nothing rfl rfl⟩
  | @unread pipeline error connection found answered =>
      refine ⟨[.read device pipeline.wireIds (.error error)], .record found ?_ rfl ?_ rfl⟩
      · exact List.forall_mem_singleton.mpr rfl
      · exact RecordedClient.calls_of_read answered
  | @read pipeline entries connection readout seen batch found answered readEq seenEq batchEq =>
      have read : Confirms coordinator seen [.read device pipeline.wireIds (.ok entries)] := by
        rw [seenEq, readEq]
        refine .record found (List.forall_mem_singleton.mpr rfl) ?_
          (RecordedClient.calls_of_read answered) rfl
        rw [List.flatMap_singleton]
        rfl
      have resets : ∀ config ∈ batch.configs, config = .reset config.cell := by
        rw [batchEq]
        exact fun _ => corrections_reset
      have known : seen.pipeline? batch.device = some pipeline := by
        rw [batchEq, seenEq]
        exact found
      obtain ⟨calls, corrected⟩ := seen.correct_confirms known resets
      refine ⟨_ ++ calls, read.trans ?_ corrected⟩
      rw [seenEq]
      rfl

theorem serve_confirms (coordinator : Coordinator ShadowTable (RecordedClient Connection))
    (request : Request) : ∃ calls, Confirms coordinator (coordinator.serve request) calls := by
  cases request with
  | process operation => exact (coordinator.processed operation).confirms
  | reconcile device => exact (coordinator.reconciled device).confirms

end Confirmations

/-! ## Recording calls changes nothing else -/

section Recording

variable {Shadow Connection : Type}

/-- The coordinator without the record of its calls. -/
def unrecorded (coordinator : Coordinator Shadow (RecordedClient Connection)) :
    Coordinator Shadow Connection where
  lockStripes := coordinator.lockStripes
  pipelines := coordinator.pipelines
  intents := coordinator.intents
  shadow := coordinator.shadow
  stats := coordinator.stats
  connection := coordinator.connection.connection

variable [Client Connection] (coordinator : Coordinator Shadow (RecordedClient Connection))

theorem send_unrecorded (pipeline : Pipeline) (batch : WriteBatch) :
    coordinator.unrecorded.send pipeline batch =
      ((coordinator.send pipeline batch).1, (coordinator.send pipeline batch).2.unrecorded) := by
  rw [send, unrecorded, RecordedClient.submit_unrecorded]
  rfl

variable [ShadowStore Shadow]

omit [Client Connection] in
theorem conclude_unrecorded (batch : WriteBatch) (outcome : BatchOutcome) :
    (coordinator.unrecorded.conclude batch outcome).2 =
      (coordinator.conclude batch outcome).2.unrecorded := by
  rw [conclude, conclude]
  cases outcome.refusals <;> rfl

theorem deliver_unrecorded (pipeline : Pipeline) (device : DeviceId) (config : CellConfig) :
    (coordinator.unrecorded.deliver pipeline device config).2 =
      (coordinator.deliver pipeline device config).2.unrecorded := by
  by_cases held : ShadowStore.holds coordinator.shadow (config.handle device) config = true
  · have same : ShadowStore.holds coordinator.unrecorded.shadow (config.handle device) config =
        true := held
    rw [deliver, deliver, if_pos same, if_pos held]
    rfl
  · have same : ¬ ShadowStore.holds coordinator.unrecorded.shadow (config.handle device) config =
        true := held
    rw [deliver, deliver, if_neg same, if_neg held]
    have counted (change : Stats → Stats) :
        coordinator.unrecorded.count change = (coordinator.count change).unrecorded := rfl
    dsimp only
    rw [counted, send_unrecorded, conclude_unrecorded]

theorem process_unrecorded (operation : Operation) :
    (coordinator.unrecorded.process operation).2 =
      (coordinator.process operation).2.unrecorded := by
  have pipeline : coordinator.unrecorded.pipeline? operation.meter.device =
      coordinator.pipeline? operation.meter.device := rfl
  rw [process, process, pipeline]
  cases coordinator.pipeline? operation.meter.device with
  | none => rfl
  | some pipeline =>
      simp only [settle_eq]
      cases pipeline.requested operation with
      | error error => rfl
      | ok config =>
          let counted := coordinator.count fun stats =>
            { stats with operations := stats.operations + 1 }
          exact deliver_unrecorded
            { counted with intents := counted.intents.settled operation config } pipeline
            operation.meter.device config

theorem correct_unrecorded (pipeline : Pipeline) (batch : WriteBatch) :
    (coordinator.unrecorded.correct pipeline batch).2 =
      (coordinator.correct pipeline batch).2.unrecorded := by
  rw [correct, correct]
  by_cases nothing : batch.configs.isEmpty = true
  · rw [if_pos nothing, if_pos nothing]
  · rw [if_neg nothing, if_neg nothing]
    dsimp only
    rw [send_unrecorded]
    rfl

omit [ShadowStore Shadow] in
theorem observe_unrecorded (pipeline : Pipeline) (device : DeviceId) :
    coordinator.unrecorded.observe pipeline device =
      ((coordinator.observe pipeline device).1,
        (coordinator.observe pipeline device).2.unrecorded) := by
  rw [observe_eq, observe_eq]
  -- A recorded read is the bare one with its call put on record.
  have read : Client.read coordinator.connection device pipeline.wireIds =
      let answered := Client.read coordinator.unrecorded.connection device pipeline.wireIds
      (answered.1, ⟨answered.2,
        coordinator.connection.calls ++ [.read device pipeline.wireIds answered.1]⟩) := rfl
  rw [read]
  cases Client.read coordinator.unrecorded.connection device pipeline.wireIds with
  | mk answer connection => cases answer <;> rfl

theorem reconcile_unrecorded (device : DeviceId) :
    (coordinator.unrecorded.reconcile device).2 =
      (coordinator.reconcile device).2.unrecorded := by
  have pipeline : coordinator.unrecorded.pipeline? device = coordinator.pipeline? device := rfl
  have counted (change : Stats → Stats) :
      coordinator.unrecorded.count change = (coordinator.count change).unrecorded := rfl
  rw [reconcile, reconcile, pipeline]
  cases coordinator.pipeline? device with
  | none => rfl
  | some pipeline =>
      dsimp only
      rw [counted, observe_unrecorded]
      cases (coordinator.count _).observe pipeline device with
      | mk answer observed =>
          cases answer with
          | error error => rfl
          | ok readout => exact correct_unrecorded (observed.synced device readout) pipeline _

theorem serveAll_unrecorded (requests : List Request) :
    coordinator.unrecorded.serveAll requests = (coordinator.serveAll requests).unrecorded := by
  induction requests generalizing coordinator with
  | nil => rfl
  | cons request requests ih =>
      have served :
          coordinator.unrecorded.serve request = (coordinator.serve request).unrecorded := by
        cases request with
        | process operation => exact coordinator.process_unrecorded operation
        | reconcile device => exact coordinator.reconcile_unrecorded device
      calc (coordinator.unrecorded.serve request).serveAll requests
          = (coordinator.serve request).unrecorded.serveAll requests := by rw [served]
        _ = ((coordinator.serve request).serveAll requests).unrecorded := ih _

end Recording

/-- After every run against any client, each cell shows what the last confirmed entry for it decodes
to, and nothing if there is none. A further request changes what is shown only by what its own calls
confirm. Keeping the record of calls, from which this is told, changes nothing in the run. -/
theorem shadow_shows_last_confirmed {Connection : Type} [Client Connection]
    (lockStripes : UInt64) (pipelines : PipelineTable) (connection : Connection)
    (requests : List Request) :
    let reached := (new lockStripes pipelines (∅ : ShadowTable)
      (RecordedClient.mk connection [])).serveAll requests
    (new lockStripes pipelines (∅ : ShadowTable) connection).serveAll requests =
        reached.unrecorded ∧
      (∀ handle, ShadowStore.find? reached.shadow handle =
        lastConfirmed pipelines reached.connection.calls handle) ∧
      ∀ request, ∃ calls,
        (reached.serve request).connection.calls = reached.connection.calls ++ calls ∧
        ∀ handle, ShadowStore.find? (reached.serve request).shadow handle =
          (lastConfirmed pipelines calls handle).or
            (ShadowStore.find? reached.shadow handle) := by
  intro reached
  have samePipelines : reached.pipelines = pipelines := serveAll_pipelines _ requests
  refine ⟨?_, ?_, ?_⟩
  · exact (new lockStripes pipelines (∅ : ShadowTable)
      (RecordedClient.mk connection [])).serveAll_unrecorded requests
  · -- Each request appends its calls to the record and what they confirm to what is shown.
    have whole : ∀ handle, ShadowStore.find? reached.shadow handle =
        lastConfirmed reached.pipelines reached.connection.calls handle := by
      refine serveAll_induction
        (motive := fun coordinator : Coordinator ShadowTable (RecordedClient Connection) =>
          ∀ handle, ShadowStore.find? coordinator.shadow handle =
            lastConfirmed coordinator.pipelines coordinator.connection.calls handle) ?_ ?_ requests
      · intro handle
        rw [new, lastConfirmed, confirmations]
        cases pipelines.get? handle.device <;> exact CellTable.find?_empty handle
      · intro coordinator request held handle
        obtain ⟨calls, confirms⟩ := coordinator.serve_confirms request
        rw [confirms.shown, confirms.made, held, serve_pipelines, lastConfirmed_append]
    rwa [samePipelines] at whole
  · intro request
    obtain ⟨calls, confirms⟩ := reached.serve_confirms request
    refine ⟨calls, confirms.made, ?_⟩
    rw [← samePipelines]
    exact confirms.shown

/-- A read finds bands that nothing is meant for, a first write clears them, and a second one is the
addition. -/
theorem shadow_shows_read_and_writes :
    let cell := Sample.handle.cell
    let drifted := (Simulator.ofDevices [(Sample.device, Sample.pipeline)]).inject Sample.device 5 0
      (some ⟨1, 2, 3, 4⟩)
    let fresh := new 1 Sample.pipelines (∅ : ShadowTable) (RecordedClient.mk drifted [])
    let reached := fresh.serveAll [.reconcile Sample.device, .process Sample.addition]
    reached.connection.calls.length = 3 ∧
      confirmations Sample.pipelines reached.connection.calls Sample.handle =
        [.modify cell ⟨1, 2⟩ ⟨3, 4⟩, .reset cell, .modify cell ⟨100, 10⟩ ⟨1000, 50⟩] ∧
      ShadowStore.find? reached.shadow Sample.handle =
        some (.modify cell ⟨100, 10⟩ ⟨1000, 50⟩) := by
  intro cell drifted fresh reached
  have confirmed : confirmations Sample.pipelines reached.connection.calls Sample.handle =
      [.modify cell ⟨1, 2⟩ ⟨3, 4⟩, .reset cell, .modify cell ⟨100, 10⟩ ⟨1000, 50⟩] := by
    decide +kernel
  obtain ⟨_, shown, _⟩ := shadow_shows_last_confirmed 1 Sample.pipelines drifted
    [.reconcile Sample.device, .process Sample.addition]
  refine ⟨by decide +kernel, confirmed, (shown Sample.handle).trans ?_⟩
  exact congrArg List.getLast? confirmed

end Coordinator

end MeterSync
