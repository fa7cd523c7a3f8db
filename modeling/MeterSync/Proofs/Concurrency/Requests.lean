import MeterSync.Proofs.Concurrency.Access

/-!
# Requests, access by access

A request is a routine: run by itself it does what the coordinator does in one go. An operation
touches the places of its own cell and no others, and a reconciliation those of its device.
-/

set_option autoImplicit false

namespace MeterSync

namespace Routine

/-! ## Single accesses -/

def count (amount : Stats) : Routine Access.Answer Unit :=
  ask (.count amount : Access)

def settle (operation : Operation) (config : CellConfig) : Routine Access.Answer Unit :=
  ask (.settle operation config : Access)

def intent? (handle : CellHandle) : Routine Access.Answer (Option Intent) :=
  ask (.intent handle : Access)

def shown? (handle : CellHandle) : Routine Access.Answer (Option CellConfig) :=
  ask (.shown handle : Access)

def put (handle : CellHandle) (config : CellConfig) : Routine Access.Answer Unit :=
  ask (.record handle config : Access)

def write (device : DeviceId) (entries : List Wire.Entry) :
    Routine Access.Answer (Except ClientError (List WriteStatus)) :=
  ask (.write device entries : Access)

def read (device : DeviceId) (wireIds : List UInt32) :
    Routine Access.Answer (Except ClientError (List Wire.Entry)) :=
  ask (.read device wireIds : Access)

/-! ## Operations -/

def submit (pipeline : Pipeline) (batch : WriteBatch) : Routine Access.Answer BatchOutcome :=
  match Codec.encodeAll pipeline batch.configs with
  | .error error => return batch.allFailed error.message
  | .ok entries => do
    let answer ← write batch.device entries
    return batch.outcome answer

/-- Takes note of the outcome of the write that was to bring a cell to a configuration. -/
def conclude (handle : CellHandle) (config : CellConfig) (outcome : BatchOutcome) :
    Routine Access.Answer (Except OperationError Unit) :=
  match outcome.refusals with
  | reason :: _ => do
    count { Stats.zero with writeFailures := 1 }
    return .error (.writeFailed handle.device reason)
  | [] => do
    put handle config
    return .ok ()

/-- Brings a cell to a configuration, unless the shadow shows it there. -/
def deliver (pipeline : Pipeline) (handle : CellHandle) (config : CellConfig) :
    Routine Access.Answer (Except OperationError Unit) := do
  let shown ← shown? handle
  if shown = some config then
    count { Stats.zero with writesSkipped := 1 }
    return .ok ()
  else
    count { Stats.zero with writesSubmitted := 1 }
    let outcome ← submit pipeline ⟨handle.device, [config]⟩
    conclude handle config outcome

def process (pipelines : PipelineTable) (operation : Operation) :
    Routine Access.Answer (Except OperationError Unit) :=
  match pipelines.get? operation.meter.device with
  | none => return .error (.noPipeline operation.meter.device)
  | some pipeline => do
    count { Stats.zero with operations := 1 }
    match pipeline.requested operation with
    | .error error =>
      count { Stats.zero with resolutionFailures := 1 }
      return .error (.unresolved error)
    | .ok config =>
      settle operation config
      deliver pipeline operation.meter.handle config

/-! ## Reconciliations -/

def record (device : DeviceId) (configs : List CellConfig) : Routine Access.Answer (List Unit) :=
  inOrder (configs.map fun config => put (config.handle device) config)

def judge (device : DeviceId) (config : CellConfig) : Routine Access.Answer Verdict := do
  match ← intent? (config.handle device) with
  | none => return if config.isDefault then .default else .inconsistent
  | some intent =>
    if intent.config ≠ config then return .inconsistent
    else
      let shown ← shown? (config.handle device)
      return if shown.isNone then .inconsistent else .consistent (config.observedMeter device)

/-- The reset that a verdict calls for, unless the shadow shows the cell reset already. -/
def correction? (device : DeviceId) (config : CellConfig) :
    Verdict → Routine Access.Answer (Option CellConfig)
  | .consistent _ => return none
  | .default => return none
  | .inconsistent => do
    let shown ← shown? (config.handle device)
    return if shown = some (.reset config.cell) then none else some (.reset config.cell)

def correct (pipeline : Pipeline) (batch : WriteBatch) : Routine Access.Answer BatchOutcome :=
  if batch.configs.isEmpty then return ⟨batch.device, []⟩
  else do
    let outcome ← submit pipeline batch
    let _ ← record batch.device outcome.accepted
    count
      { Stats.zero with
        cellsReset := outcome.accepted.length
        resetFailures := outcome.failed.length }
    return outcome

/-- Compares everything that was read with what is meant, and resets what is not as intended. -/
def repair (pipeline : Pipeline) (device : DeviceId) (readout : Readout) :
    Routine Access.Answer Report := do
  let judged ← inOrder (readout.configs.map fun config => do
    let verdict ← judge device config
    return (config, verdict))
  let resets ← inOrder (judged.map fun each => correction? device each.1 each.2)
  let outcome ← correct pipeline
    ⟨device, resets.filterMap id ++ readout.undecodable.map .reset⟩
  return {
    meters := judged.filterMap fun each =>
      match each.2 with
      | .consistent meter => some meter
      | .default => none
      | .inconsistent => none
    cellsRead := readout.size
    reset := outcome.accepted.length
    resetFailed := outcome.failed.length
    undecodable := readout.undecodable.length }

def reconcile (pipelines : PipelineTable) (device : DeviceId) : Routine Access.Answer Report :=
  match pipelines.get? device with
  | none => return .empty
  | some pipeline => do
    count { Stats.zero with reconciliations := 1 }
    match ← read device pipeline.wireIds with
    | .error _ => return .empty
    | .ok entries =>
      let readout := Readout.ofEntries pipeline entries
      let _ ← record device readout.configs
      repair pipeline device readout

/-! ## Routines run by themselves -/

section Runs

variable {Shadow Connection : Type} [ShadowStore Shadow] [Client Connection]
  (coordinator : Coordinator Shadow Connection)

@[simp] theorem run_count (amount : Stats) :
    (count amount).run Access.perform coordinator = ((), coordinator.count (·.plus amount)) := rfl

@[simp] theorem run_settle (operation : Operation) (config : CellConfig) :
    (settle operation config).run Access.perform coordinator =
      ((), { coordinator with intents := coordinator.intents.settled operation config }) := rfl

@[simp] theorem run_intent? (handle : CellHandle) :
    (intent? handle).run Access.perform coordinator =
      (coordinator.intents.lookup handle, coordinator) := rfl

@[simp] theorem run_shown? (handle : CellHandle) :
    (shown? handle).run Access.perform coordinator =
      (ShadowStore.find? coordinator.shadow handle, coordinator) := rfl

@[simp] theorem run_read (device : DeviceId) (wireIds : List UInt32) :
    (read device wireIds).run Access.perform coordinator =
      let answered := Client.read coordinator.connection device wireIds
      (answered.1, { coordinator with connection := answered.2 }) := rfl

theorem run_submit (pipeline : Pipeline) (batch : WriteBatch) :
    (submit pipeline batch).run Access.perform coordinator = coordinator.send pipeline batch := by
  unfold submit Coordinator.send
  cases encoded : Codec.encodeAll pipeline batch.configs with
  | error error =>
      simp only [Client.submit, encoded]
      rfl
  | ok entries =>
      rw [Client.submit_of_encodeAll encoded]
      rfl

theorem run_conclude (device : DeviceId) (config : CellConfig) (outcome : BatchOutcome) :
    (conclude (config.handle device) config outcome).run Access.perform coordinator =
      coordinator.conclude ⟨device, [config]⟩ outcome := by
  unfold conclude Coordinator.conclude
  cases outcome.refusals <;> rfl

theorem run_deliver (pipeline : Pipeline) (device : DeviceId) (config : CellConfig) :
    (deliver pipeline (config.handle device) config).run Access.perform coordinator =
      coordinator.deliver pipeline device config := by
  unfold deliver Coordinator.deliver
  rw [run_bind, run_shown?]
  by_cases shown : ShadowStore.find? coordinator.shadow (config.handle device) = some config
  · rw [if_pos shown, if_pos (ShadowStore.holds_iff.mpr shown)]
    rfl
  · rw [if_neg shown, if_neg fun held => shown (ShadowStore.holds_iff.mp held)]
    simp only [run_bind, run_count, run_submit, run_conclude]
    rfl

theorem run_process (operation : Operation) :
    (process coordinator.pipelines operation).run Access.perform coordinator =
      coordinator.process operation := by
  unfold process Coordinator.process Coordinator.pipeline?
  cases found : coordinator.pipelines.get? operation.meter.device with
  | none =>
      dsimp only
      rw [found, run_pure]
  | some pipeline =>
      dsimp only
      rw [found, run_bind, run_count]
      dsimp only
      rw [Coordinator.settle_eq]
      cases requested : pipeline.requested operation with
      | error error => rfl
      | ok config =>
          dsimp only
          rw [run_bind, run_settle, ← Pipeline.requested_handle requested, run_deliver]
          rfl

theorem run_record (device : DeviceId) (configs : List CellConfig) :
    ((record device configs).run Access.perform coordinator).2 =
      { coordinator with shadow := ShadowStore.record coordinator.shadow device configs } := by
  unfold record
  induction configs generalizing coordinator with
  | nil => rfl
  | cons config configs ih =>
      rw [List.map_cons, run_inOrder_cons, ih]
      rfl

theorem run_judge (device : DeviceId) (config : CellConfig) :
    (judge device config).run Access.perform coordinator =
      (coordinator.judge device config, coordinator) := by
  unfold judge Coordinator.judge
  rw [run_bind, run_intent?]
  cases coordinator.intents.lookup (config.handle device) with
  | none => rfl
  | some intent =>
      by_cases same : intent.config ≠ config
      · simp only [if_pos same]
        rfl
      · simp only [if_neg same, run_bind, run_shown?, run_pure]
        rfl

theorem run_correction? (device : DeviceId) (config : CellConfig) :
    (correction? device config (coordinator.judge device config)).run Access.perform coordinator =
      (coordinator.correction? device config, coordinator) := by
  unfold correction? Coordinator.correction?
  cases coordinator.judge device config with
  | consistent meter => rfl
  | default => rfl
  | inconsistent =>
      simp only [run_bind, run_shown?, run_pure, ShadowStore.holds, beq_iff_eq]
      rfl

theorem run_correct (pipeline : Pipeline) (batch : WriteBatch) :
    (correct pipeline batch).run Access.perform coordinator =
      coordinator.correct pipeline batch := by
  unfold correct Coordinator.correct
  by_cases nothing : batch.configs.isEmpty = true
  · rw [if_pos nothing, if_pos nothing, run_pure]
  · rw [if_neg nothing, if_neg nothing]
    have device : (coordinator.send pipeline batch).1.device = batch.device :=
      Client.submit_device pipeline batch coordinator.connection
    simp only [run_bind, run_submit, run_record, run_count, run_pure, ShadowStore.recordOutcome,
      device]
    rfl

theorem run_repair (pipeline : Pipeline) (device : DeviceId) (readout : Readout) :
    (repair pipeline device readout).run Access.perform coordinator =
      let corrected := coordinator.correct pipeline (coordinator.corrections device readout)
      ({ meters := coordinator.consistentMeters device readout.configs
         cellsRead := readout.size
         reset := corrected.1.accepted.length
         resetFailed := corrected.1.failed.length
         undecodable := readout.undecodable.length },
        corrected.2) := by
  have judged : (inOrder (readout.configs.map fun config => do
        let verdict ← judge device config
        return (config, verdict))).run Access.perform coordinator =
      (readout.configs.map fun config => (config, coordinator.judge device config),
        coordinator) := by
    apply run_inOrder_map
    intro config _
    rw [run_bind, run_judge, run_pure]
  have resets : (inOrder
        ((readout.configs.map fun config => (config, coordinator.judge device config)).map
          fun each => correction? device each.1 each.2)).run Access.perform coordinator =
      (readout.configs.map (coordinator.correction? device), coordinator) := by
    rw [List.map_map]
    apply run_inOrder_map
    intro config _
    exact run_correction? coordinator device config
  unfold repair
  rw [run_bind, judged]
  dsimp only
  rw [run_bind, resets]
  dsimp only
  rw [run_bind, run_correct, run_pure, List.filterMap_map, List.filterMap_map]
  rfl

theorem run_reconcile (device : DeviceId) :
    (reconcile coordinator.pipelines device).run Access.perform coordinator =
      coordinator.reconcile device := by
  unfold reconcile Coordinator.reconcile Coordinator.pipeline?
  cases found : coordinator.pipelines.get? device with
  | none => rfl
  | some pipeline =>
      dsimp only
      rw [run_bind, run_count, run_bind, run_read, Coordinator.observe_eq]
      simp only [Coordinator.count]
      cases answered : Client.read coordinator.connection device pipeline.wireIds with
      | mk answer connection =>
          cases answer with
          | error error => rfl
          | ok entries =>
              dsimp only
              rw [run_bind, run_record, run_repair]
              rfl

end Runs

/-! ## The places that requests touch -/

section Footprints

variable {region : Place → Prop}

theorem within_count (amount : Stats) : (count amount).Within (Access.Inside region) := by
  apply Within.ask
  intro place touched
  cases touched

theorem within_settle {operation : Operation} (member : region (.intent operation.meter.handle))
    (config : CellConfig) : (settle operation config).Within (Access.Inside region) := by
  apply Within.ask
  intro place touched
  cases touched
  exact member

theorem within_intent? {handle : CellHandle} (member : region (.intent handle)) :
    (intent? handle).Within (Access.Inside region) := by
  apply Within.ask
  intro place touched
  cases touched
  exact member

theorem within_shown? {handle : CellHandle} (member : region (.shown handle)) :
    (shown? handle).Within (Access.Inside region) := by
  apply Within.ask
  intro place touched
  cases touched
  exact member

theorem within_put {handle : CellHandle} (member : region (.shown handle)) (config : CellConfig) :
    (put handle config).Within (Access.Inside region) := by
  apply Within.ask
  intro place touched
  cases touched
  exact member

theorem within_read {device : DeviceId} {wireIds : List UInt32}
    (member : ∀ wireId ∈ wireIds, ∀ index, region (.cell device wireId index)) :
    (read device wireIds).Within (Access.Inside region) := by
  apply Within.ask
  intro place touched
  cases touched with
  | read index asked => exact member _ asked index

theorem within_submit {pipeline : Pipeline} {batch : WriteBatch}
    (member : ∀ config ∈ batch.configs, ∀ entry index, Codec.encode pipeline config = .ok entry →
      entry.index = some index → region (.cell batch.device entry.meterId index)) :
    (submit pipeline batch).Within (Access.Inside region) := by
  unfold submit
  cases encoded : Codec.encodeAll pipeline batch.configs with
  | error error => exact .done _
  | ok entries =>
      have each := Codec.encodeAll_eq_ok_iff.mp encoded
      refine Within.bind (Within.ask ?_) fun _ => .done _
      intro place touched
      cases touched with
      | @write _ _ entry index written given =>
          have image : (.ok entry : Except CodecError Wire.Entry) ∈ entries.map .ok :=
            List.mem_map_of_mem written
          rw [← each] at image
          obtain ⟨config, configMember, configEncoded⟩ := List.mem_map.mp image
          exact member config configMember entry index configEncoded given

theorem within_record {device : DeviceId} {configs : List CellConfig}
    (member : ∀ config ∈ configs, region (.shown (config.handle device))) :
    (record device configs).Within (Access.Inside region) := by
  apply Within.inOrder
  intro routine listed
  obtain ⟨config, configMember, rfl⟩ := List.mem_map.mp listed
  exact within_put (member config configMember) config

theorem within_conclude {handle : CellHandle} (member : region (.shown handle))
    (config : CellConfig) (outcome : BatchOutcome) :
    (conclude handle config outcome).Within (Access.Inside region) := by
  unfold conclude
  cases outcome.refusals with
  | nil => exact (within_put member config).bind fun _ => .done _
  | cons reason reasons => exact (within_count _).bind fun _ => .done _

theorem within_deliver {pipeline : Pipeline} {handle : CellHandle} {config : CellConfig}
    (shown : region (.shown handle))
    (cell : ∀ entry index, Codec.encode pipeline config = .ok entry →
      entry.index = some index → region (.cell handle.device entry.meterId index)) :
    (deliver pipeline handle config).Within (Access.Inside region) := by
  unfold deliver
  refine (within_shown? shown).bind fun held => ?_
  split
  · exact (within_count _).bind fun _ => .done _
  · refine (within_count _).bind fun _ => ?_
    refine (within_submit ?_).bind fun outcome => within_conclude shown config outcome
    intro only member
    rw [List.mem_singleton.mp member]
    exact cell

end Footprints

end Routine

/-- The cell that a place is for, as far as the pipelines tell. -/
def Place.owner? (pipelines : PipelineTable) : Place → Option CellHandle
  | .intent handle => some handle
  | .shown handle => some handle
  | .cell device wireId index =>
    (pipelines.get? device).bind fun pipeline =>
      (Codec.decodeKey pipeline ⟨wireId, some index, none⟩).toOption.map (⟨device, ·⟩)

theorem Place.device_of_owner? {pipelines : PipelineTable} {place : Place} {handle : CellHandle}
    (owned : place.owner? pipelines = some handle) : place.device = handle.device := by
  cases place with
  | intent own =>
      cases owned
      rfl
  | shown own =>
      cases owned
      rfl
  | cell device wireId index =>
      obtain ⟨pipeline, _, named⟩ := Option.bind_eq_some_iff.mp owned
      obtain ⟨cell, _, rfl⟩ := Option.map_eq_some_iff.mp named
      rfl

/-- The wire cell of an entry belongs to the cell that the entry was made for, and to no other. -/
theorem Place.owner?_of_encode {pipelines : PipelineTable} {device : DeviceId} {pipeline : Pipeline}
    (found : pipelines.get? device = some pipeline) {config : CellConfig}
    (regular : config.state.Regular) {entry : Wire.Entry}
    (encoded : Codec.encode pipeline config = .ok entry) {index : Int64}
    (given : entry.index = some index) :
    (Place.cell device entry.meterId index).owner? pipelines = some (config.handle device) := by
  have same : Codec.decodeKey pipeline ⟨entry.meterId, some index, none⟩ =
      Codec.decodeKey pipeline entry := Codec.decodeKey_congr rfl given.symm
  have key := same.trans (Codec.decodeKey_of_encode regular encoded)
  rw [owner?, found, Option.bind_some, key]
  rfl

namespace Routine

/-- An operation touches nothing but what is held for its own cell. -/
theorem process_within (pipelines : PipelineTable) (operation : Operation) :
    (process pipelines operation).Within
      (Access.Inside fun place => place.owner? pipelines = some operation.meter.handle) := by
  unfold process
  cases found : pipelines.get? operation.meter.device with
  | none => exact .done _
  | some pipeline =>
      refine (within_count _).bind fun _ => ?_
      cases requested : pipeline.requested operation with
      | error error => exact (within_count _).bind fun _ => .done _
      | ok config =>
          obtain ⟨_, regular⟩ := Pipeline.requested_spec requested
          apply Within.bind
          · apply within_settle
            rfl
          · intro _
            apply within_deliver
            · rfl
            · intro entry index encoded given
              rw [← Pipeline.requested_handle requested]
              exact Place.owner?_of_encode found regular encoded given

theorem judge_within (device : DeviceId) (config : CellConfig) :
    (judge device config).Within (Access.Inside fun place => place.device = device) := by
  unfold judge
  refine Within.bind (within_intent? rfl) fun intent => ?_
  cases intent with
  | none => exact .done _
  | some intent =>
      dsimp only
      split
      · exact .done _
      · exact Within.bind (within_shown? rfl) fun _ => .done _

theorem correction?_within (device : DeviceId) (config : CellConfig) (verdict : Verdict) :
    (correction? device config verdict).Within
      (Access.Inside fun place => place.device = device) := by
  cases verdict with
  | consistent meter => exact .done _
  | default => exact .done _
  | inconsistent => exact Within.bind (within_shown? rfl) fun _ => .done _

theorem correct_within (pipeline : Pipeline) (device : DeviceId) (configs : List CellConfig) :
    (correct pipeline ⟨device, configs⟩).Within
      (Access.Inside fun place => place.device = device) := by
  unfold correct
  split
  · exact .done _
  · refine (within_submit fun _ _ _ _ _ _ => rfl).bind fun outcome => ?_
    refine (within_record fun _ _ => rfl).bind fun _ => ?_
    exact (within_count _).bind fun _ => .done _

theorem repair_within (pipeline : Pipeline) (device : DeviceId) (readout : Readout) :
    (repair pipeline device readout).Within
      (Access.Inside fun place => place.device = device) := by
  unfold repair
  apply Within.bind
  · apply Within.inOrder
    intro routine listed
    obtain ⟨config, _, rfl⟩ := List.mem_map.mp listed
    exact (judge_within device config).bind fun _ => .done _
  · intro judged
    apply Within.bind
    · apply Within.inOrder
      intro routine listed
      obtain ⟨each, _, rfl⟩ := List.mem_map.mp listed
      exact correction?_within device each.1 each.2
    · intro resets
      exact Within.bind (correct_within pipeline device _) fun _ => .done _

/-- A reconciliation touches nothing but what is held for its device. -/
theorem reconcile_within (pipelines : PipelineTable) (device : DeviceId) :
    (reconcile pipelines device).Within (Access.Inside fun place => place.device = device) := by
  unfold reconcile
  cases pipelines.get? device with
  | none => exact .done _
  | some pipeline =>
      refine (within_count _).bind fun _ => ?_
      refine (within_read fun _ _ _ => rfl).bind fun answer => ?_
      cases answer with
      | error error => exact .done _
      | ok entries =>
          refine (within_record fun _ _ => rfl).bind fun _ => ?_
          exact repair_within pipeline device _

end Routine

end MeterSync
