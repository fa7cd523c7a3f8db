import MeterSync.Proofs.Coordinator.Run

/-!
# Shadows and devices agree

As long as nobody else changes a cell, what the shadow shows is what the device holds. A write moves
both, a read copies from the device, and whatever fails moves neither. A write that is left out
because of the shadow is therefore not missed by the device.
-/

set_option autoImplicit false

namespace MeterSync

/-- The cell of a configuration holds exactly the numbers under which the configuration is
encoded. -/
def CellView.Shows (cells : CellView) (pipeline : Pipeline) (device : DeviceId)
    (config : CellConfig) : Prop :=
  ∃ entry index, Codec.encode pipeline config = .ok entry ∧ entry.index = some index ∧
    cells device entry.meterId index = entry.config

namespace CellView

theorem Shows.set_device {cells : CellView} {pipeline : Pipeline} {device other : DeviceId}
    {config : CellConfig} (shows : cells.Shows pipeline other config) (differs : other ≠ device)
    (wireId : UInt32) (index : Int64) (numbers : Option Wire.Config) :
    (cells.set device wireId index numbers).Shows pipeline other config := by
  obtain ⟨entry, entryIndex, encoded, given, held⟩ := shows
  refine ⟨entry, entryIndex, encoded, given, ?_⟩
  simpa [set, differs] using held

/-- Two cells have two keys, so a change of one does not show in the other. -/
theorem Shows.set_cell {cells : CellView} {pipeline : Pipeline} {device : DeviceId}
    {config written : CellConfig} (shows : cells.Shows pipeline device config)
    (regular : config.state.Regular) (writtenRegular : written.state.Regular)
    (differs : config.cell ≠ written.cell) {entry : Wire.Entry} {index : Int64}
    (encoded : Codec.encode pipeline written = .ok entry) (given : entry.index = some index) :
    (cells.set device entry.meterId index entry.config).Shows pipeline device config := by
  obtain ⟨own, ownIndex, ownEncoded, ownGiven, held⟩ := shows
  refine ⟨own, ownIndex, ownEncoded, ownGiven, ?_⟩
  have apart : ¬ (own.meterId = entry.meterId ∧ ownIndex = index) := by
    intro same
    rcases same with ⟨sameId, rfl⟩
    have key := Codec.decodeKey_of_encode regular ownEncoded
    rw [Codec.decodeKey_congr sameId (ownGiven.trans given.symm),
      Codec.decodeKey_of_encode writtenRegular encoded] at key
    exact differs (Except.ok.inj key).symm
  simpa [set, apart] using held

end CellView

/-- The cell of a handle holds the numbers under which the pipeline of its device encodes a
configuration: none for a reset, and four otherwise. -/
def CellView.Holds (cells : CellView) (pipelines : PipelineTable) (handle : CellHandle)
    (config : CellConfig) : Prop :=
  ∃ pipeline, pipelines.get? handle.device = some pipeline ∧ config.cell = handle.cell ∧
    ∃ array ∈ pipeline.arrays, array.id = handle.cell.meter ∧
      Codec.encode pipeline config =
        .ok ⟨array.wireId, some handle.cell.index.toInt64, config.state.toWire⟩ ∧
      cells handle.device array.wireId handle.cell.index.toInt64 = config.state.toWire

theorem CellView.Shows.holds {cells : CellView} {pipelines : PipelineTable}
    {pipeline : Pipeline} {config : CellConfig} (handle : CellHandle)
    (shows : cells.Shows pipeline handle.device config)
    (found : pipelines.get? handle.device = some pipeline) (sameCell : config.cell = handle.cell)
    (regular : config.state.Regular) : cells.Holds pipelines handle config := by
  obtain ⟨entry, index, encoded, given, held⟩ := shows
  obtain ⟨key, keyEncoded, rfl⟩ := (Codec.encode_eq_ok_iff regular).mp encoded
  obtain ⟨array, member, named, _, rfl⟩ := Codec.encodeKey_eq_ok_iff.mp keyEncoded
  cases given
  rw [sameCell] at named encoded held
  exact ⟨pipeline, found, sameCell, array, member, named, encoded, held⟩

/-- What the shadow shows is what devices hold, what the shadow loses it never shows, and devices
hold only numbers that a coordinator could have written. -/
structure Coherent {Shadow : Type} [ShadowStore Shadow] [LawfulShadow Shadow]
    (pipelines : PipelineTable) (shadow : Shadow) (cells : CellView) : Prop where
  shown : ∀ handle config, ShadowStore.find? shadow handle = some config →
    ∃ pipeline, pipelines.get? handle.device = some pipeline ∧ config.cell = handle.cell ∧
      config.state.Regular ∧ cells.Shows pipeline handle.device config
  lost : ∀ handle, LawfulShadow.loses shadow handle = true →
    ShadowStore.find? shadow handle = none
  writable : ∀ device wireId index numbers, cells device wireId index = some numbers →
    numbers.Unsigned ∧ numbers.InOrder

namespace Coherent

variable {Shadow : Type} [ShadowStore Shadow] [LawfulShadow Shadow] {pipelines : PipelineTable}
  {shadow : Shadow} {cells : CellView} {device : DeviceId} {pipeline : Pipeline}

/-- A configuration that is taken moves the shadow and the device together. -/
theorem put (coherent : Coherent pipelines shadow cells)
    (found : pipelines.get? device = some pipeline) {config : CellConfig}
    (regular : config.state.Regular) {entry : Wire.Entry} {index : Int64}
    (encoded : Codec.encode pipeline config = .ok entry) (given : entry.index = some index) :
    Coherent pipelines (ShadowStore.put shadow (config.handle device) config)
      (cells.set device entry.meterId index entry.config) := by
  constructor
  · intro handle shownConfig shown
    rw [LawfulShadow.find?_put] at shown
    split at shown
    · rename_i here
      obtain ⟨rfl, _⟩ := here
      cases shown
      exact ⟨pipeline, found, rfl, regular, entry, index, encoded, given, cells.set_same ..⟩
    · rename_i elsewhere
      obtain ⟨own, ownFound, sameCell, ownRegular, shows⟩ :=
        coherent.shown handle shownConfig shown
      refine ⟨own, ownFound, sameCell, ownRegular, ?_⟩
      by_cases sameDevice : handle.device = device
      · subst sameDevice
        have samePipeline : own = pipeline := Option.some.inj (ownFound.symm.trans found)
        subst samePipeline
        refine shows.set_cell ownRegular regular ?_ encoded given
        intro same
        have sameHandle : config.handle handle.device = handle := by
          rw [CellConfig.handle, ← same, sameCell]
        -- The shadow shows this cell, so it does not lose it, and would show what was just put.
        cases loses : LawfulShadow.loses shadow handle with
        | false => exact elsewhere ⟨sameHandle, by rw [sameHandle, loses]⟩
        | true =>
            rw [coherent.lost handle loses] at shown
            cases shown
      · exact shows.set_device sameDevice ..
  · intro handle loses
    rw [LawfulShadow.loses_put] at loses
    rw [ShadowStore.find?_put_lost loses]
    exact coherent.lost handle loses
  · intro other wireId otherIndex numbers held
    rw [CellView.set] at held
    split at held
    · obtain ⟨key, _, rfl⟩ := (Codec.encode_eq_ok_iff regular).mp encoded
      exact ⟨regular.toWire_unsigned numbers held, regular.toWire_inOrder numbers held⟩
    · exact coherent.writable other wireId otherIndex numbers held

/-- What is read off the device can be recorded. -/
theorem record (coherent : Coherent pipelines shadow cells)
    (found : pipelines.get? device = some pipeline) {configs : List CellConfig}
    (seen : ∀ config ∈ configs, config.state.Regular ∧ cells.Shows pipeline device config) :
    Coherent pipelines (ShadowStore.record shadow device configs) cells := by
  constructor
  · intro handle config shown
    rw [ShadowStore.find?_record] at shown
    split at shown
    · rename_i here
      obtain ⟨rfl, _⟩ := here
      obtain last | ⟨_, earlier⟩ := Option.or_eq_some_iff.mp shown
      · obtain ⟨member, sameCell⟩ := CellConfig.latest?_mem last
        obtain ⟨regular, shows⟩ := seen config member
        exact ⟨pipeline, found, sameCell, regular, shows⟩
      · exact coherent.shown handle config earlier
    · exact coherent.shown handle config shown
  · intro handle loses
    rw [ShadowStore.loses_record] at loses
    rw [ShadowStore.find?_record_lost loses]
    exact coherent.lost handle loses
  · exact coherent.writable

/-- Configurations that are taken one by one move the shadow and the devices together. -/
theorem step (found : pipelines.get? device = some pipeline) {configs taken : List CellConfig}
    (regular : ∀ config ∈ configs, config.state.Regular) {config : CellConfig}
    {entry : Wire.Entry} {index : Int64} (member : config ∈ configs)
    (encoded : Codec.encode pipeline config = .ok entry) (given : entry.index = some index)
    (coherent : Coherent pipelines (ShadowStore.record shadow device taken) cells) :
    Coherent pipelines (ShadowStore.record shadow device (taken ++ [config]))
      (cells.set device entry.meterId index entry.config) := by
  rw [ShadowStore.record_concat]
  exact coherent.put found (regular config member) encoded given

theorem submit {simulator : Simulator} (coherent : Coherent pipelines shadow simulator.cells)
    (found : pipelines.get? device = some pipeline) {configs : List CellConfig}
    (regular : ∀ config ∈ configs, config.state.Regular) :
    Coherent pipelines
      (ShadowStore.record shadow device
        (Client.submit pipeline ⟨device, configs⟩ simulator).1.accepted)
      (Client.submit pipeline ⟨device, configs⟩ simulator).2.cells :=
  Client.submit_induction
    (motive := fun taken cells =>
      Coherent pipelines (ShadowStore.record shadow device taken) cells)
    coherent fun _ _ _ _ _ member encoded given held =>
      held.step found regular member encoded given

end Coherent

theorem submit_shows {simulator : Simulator} {pipeline : Pipeline} {device : DeviceId}
    {config : CellConfig}
    (taken : (Client.submit pipeline ⟨device, [config]⟩ simulator).1.accepted ≠ []) :
    (Client.submit pipeline ⟨device, [config]⟩ simulator).2.cells.Shows pipeline device config := by
  refine Client.submit_induction
    (motive := fun taken cells => taken ≠ [] → cells.Shows pipeline device config)
    (fun none => absurd rfl none) ?_ taken
  intro _ cells written entry index member encoded given _ _
  cases List.mem_singleton.mp member
  exact ⟨entry, index, encoded, given, cells.set_same ..⟩

namespace Coordinator

variable {Shadow : Type} [ShadowStore Shadow] [LawfulShadow Shadow]

/-- The shadow of a coordinator agrees with its devices. -/
def Coherent (coordinator : Coordinator Shadow Simulator) : Prop :=
  MeterSync.Coherent coordinator.pipelines coordinator.shadow coordinator.connection.cells

variable {coordinator after : Coordinator Shadow Simulator}

theorem Coherent.process {operation : Operation} {result : Except OperationError Unit}
    (coherent : coordinator.Coherent) (ended : Processed coordinator operation result after) :
    after.Coherent := by
  cases ended with
  | unknown _ => exact coherent
  | unresolved _ _ => exact coherent
  | skipped _ _ _ => exact coherent
  | refused found requested _ submitted _ nothing =>
      obtain ⟨_, regular⟩ := Pipeline.requested_spec requested
      have moved := MeterSync.Coherent.submit coherent found (List.forall_mem_singleton.mpr regular)
      rw [submitted, nothing] at moved
      exact moved
  | @written pipeline config outcome connection found requested _ submitted taken =>
      obtain ⟨_, regular⟩ := Pipeline.requested_spec requested
      have moved := MeterSync.Coherent.submit coherent found (List.forall_mem_singleton.mpr regular)
      rw [submitted, taken, ← List.nil_append [config], ShadowStore.record_concat,
        Pipeline.requested_handle requested] at moved
      exact moved

/-- What a read decodes is encoded as it was found. -/
theorem Coherent.read {device : DeviceId} {pipeline : Pipeline} {entries : List Wire.Entry}
    {connection : Simulator} (coherent : coordinator.Coherent)
    (answered : Client.read coordinator.connection device pipeline.wireIds =
      (.ok entries, connection)) :
    ∀ config ∈ (Readout.ofEntries pipeline entries).configs, config.state.Regular ∧
      coordinator.connection.cells.Shows pipeline device config := by
  intro config member
  obtain ⟨entry, entryMember, decoded⟩ := Readout.mem_configs.mp member
  obtain ⟨_, index, given, _, held⟩ :=
    Simulator.mem_read answered entryMember
  have writable : ∀ numbers ∈ entry.config, numbers.Unsigned ∧ numbers.InOrder := by
    intro numbers present
    exact coherent.writable device entry.meterId index numbers (held.symm.trans present)
  have encoded := Codec.encode_of_decode decoded
  rw [CellState.toWire_ofWire writable] at encoded
  exact ⟨Codec.decode_regular decoded, entry, index, encoded, given, held.symm⟩

theorem Coherent.reconcile {device : DeviceId} {report : Report}
    (coherent : coordinator.Coherent) (ended : Reconciled coordinator device report after) :
    after.Coherent := by
  cases ended with
  | unknown _ => exact coherent
  | unread _ answered =>
      rw [Coherent, observed, Simulator.cells_of_read answered]
      exact coherent
  | @read pipeline entries connection readout seen batch found answered readEq seenEq batchEq =>
      obtain ⟨pipelines, _, shadow⟩ := seen.correct_frame pipeline batch
      have start : seen.Coherent := by
        rw [seenEq, readEq, Coherent, synced, observed, Simulator.cells_of_read answered]
        exact MeterSync.Coherent.record coherent found (coherent.read answered)
      have known : seen.pipelines.get? device = some pipeline := by
        rw [seenEq]
        exact found
      have regular : ∀ config ∈ batch.configs, config.state.Regular := by
        intro config member
        rw [batchEq] at member
        rw [corrections_reset member]
        exact .reset
      have sameDevice : batch.device = device := congrArg WriteBatch.device batchEq
      rw [Coherent, pipelines, shadow, sameDevice]
      refine correct_induction (motive := fun taken cells => MeterSync.Coherent seen.pipelines
        (ShadowStore.record seen.shadow device taken) cells) start ?_
      intro _ _ _ _ _ member encoded given held
      rw [sameDevice]
      exact held.step known regular member encoded given

theorem Coherent.happen {event : Event} (coherent : coordinator.Coherent)
    (untouched : event.injects = false) : (coordinator.happen event).Coherent := by
  cases event with
  | request request =>
      cases request with
      | process operation => exact coherent.process (coordinator.processed operation)
      | reconcile device => exact coherent.reconcile (coordinator.reconciled device)
  | inject device wireId index config => cases untouched
  | failWrites fail => exact coherent
  | failReads fail => exact coherent

/-- What an operation asked for is on the device once it succeeds, even if nothing was written. -/
theorem Coherent.processed_shows {operation : Operation} (coherent : coordinator.Coherent)
    (ended : Processed coordinator operation (.ok ()) after) :
    ∃ pipeline config, coordinator.pipelines.get? operation.meter.device = some pipeline ∧
      pipeline.requested operation = .ok config ∧
      after.connection.cells.Shows pipeline operation.meter.device config := by
  cases ended with
  | @skipped pipeline config found requested shown =>
      obtain ⟨own, ownFound, _, _, shows⟩ := coherent.shown _ _ shown
      have samePipeline : own = pipeline := Option.some.inj (ownFound.symm.trans found)
      exact ⟨pipeline, config, found, requested, samePipeline ▸ shows⟩
  | @written pipeline config outcome connection found requested _ submitted taken =>
      have something : (Client.submit pipeline ⟨operation.meter.device, [config]⟩
          coordinator.connection).1.accepted ≠ [] := by simp [submitted, taken]
      have shows := submit_shows something
      rw [submitted] at shows
      exact ⟨pipeline, config, found, requested, shows⟩

/-- A coordinator that has done nothing yet, whose shadow loses some cells, with simulated devices
that hold nothing. The devices need not have the arrays that the coordinator knows of. -/
def fresh (lockStripes : UInt64) (pipelines : PipelineTable) (loses : CellHandle → Bool)
    (placed : List (DeviceId × Pipeline)) : Coordinator LossyShadow Simulator :=
  .new lockStripes pipelines ⟨∅, loses⟩ (.ofDevices placed)

theorem new_coherent (lockStripes : UInt64) (pipelines : PipelineTable) {shadow : Shadow}
    (vacant : ∀ handle, ShadowStore.find? shadow handle = none)
    (placed : List (DeviceId × Pipeline)) :
    (new lockStripes pipelines shadow (.ofDevices placed)).Coherent := by
  constructor
  · intro handle config shown
    rw [new, vacant] at shown
    cases shown
  · exact fun handle _ => vacant handle
  · intro device wireId index numbers held
    rw [new, Simulator.cells_ofDevices] at held
    cases held

theorem fresh_coherent (lockStripes : UInt64) (pipelines : PipelineTable)
    (loses : CellHandle → Bool) (placed : List (DeviceId × Pipeline)) :
    (fresh lockStripes pipelines loses placed).Coherent :=
  new_coherent lockStripes pipelines (fun handle => CellTable.find?_empty handle) placed

theorem run_coherent {events : List Event} (untouched : ∀ event ∈ events, event.injects = false)
    (coherent : coordinator.Coherent) : (coordinator.run events).Coherent :=
  run_induction coherent fun _ event member held => held.happen (untouched event member)

/-- After every run in which no cell is changed from outside, each cell that the shadow shows holds
what is shown, and an operation that succeeds leaves its cell holding what it asked for. -/
theorem shadow_agrees_with_devices (lockStripes : UInt64) (pipelines : PipelineTable)
    (loses : CellHandle → Bool) (placed : List (DeviceId × Pipeline)) (events : List Event)
    (untouched : ∀ event ∈ events, event.injects = false) :
    let reached := (fresh lockStripes pipelines loses placed).run events
    (∀ handle config, ShadowStore.find? reached.shadow handle = some config →
      reached.connection.cells.Holds pipelines handle config) ∧
    ∀ operation, (reached.process operation).1 = .ok () →
      ∃ pipeline config, pipelines.get? operation.meter.device = some pipeline ∧
        pipeline.requested operation = .ok config ∧
        (reached.process operation).2.connection.cells.Holds pipelines operation.meter.handle
          config := by
  intro reached
  have coherent : reached.Coherent := run_coherent untouched (fresh_coherent ..)
  have samePipelines : reached.pipelines = pipelines := run_pipelines _ _
  constructor
  · intro handle config shown
    obtain ⟨pipeline, found, sameCell, regular, shows⟩ := coherent.shown handle config shown
    rw [samePipelines] at found
    exact CellView.Shows.holds handle shows found sameCell regular
  · intro operation succeeded
    have ended := reached.processed operation
    rw [succeeded] at ended
    obtain ⟨pipeline, config, found, requested, shows⟩ := coherent.processed_shows ended
    rw [samePipelines] at found
    obtain ⟨sameCell, regular⟩ := Pipeline.requested_spec requested
    exact ⟨pipeline, config, found, requested,
      CellView.Shows.holds operation.meter.handle shows found sameCell regular⟩

/-- The addition is refused, then taken, and then read back. -/
def refusedOnce : List Event :=
  [.failWrites true, .request (.process Sample.addition), .failWrites false,
    .request (.process Sample.addition), .request (.reconcile Sample.device)]

theorem shadow_agrees_after_refusal :
    ((fresh 1 Sample.pipelines (fun _ => false) [(Sample.device, Sample.pipeline)]).run
        refusedOnce).connection.cells.Holds Sample.pipelines Sample.handle
      (.modify Sample.handle.cell ⟨100, 10⟩ ⟨1000, 50⟩) :=
  (shadow_agrees_with_devices 1 Sample.pipelines (fun _ => false)
    [(Sample.device, Sample.pipeline)] refusedOnce (by decide)).1 _ _ (by decide +kernel)

end Coordinator

end MeterSync
