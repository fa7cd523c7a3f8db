import MeterSync.Client.Scripted
import MeterSync.Proofs.Concurrency.Requests
import MeterSync.Proofs.Representation

/-!
# What the stores hold

Configurations come into the stores by resolution, by decoding whatever a client answers, and as
resets. Each of these ways leaves them in one form: filed under their own cell, with bands in order
that fit the wire. Requests make no other accesses to the stores, so however they take turns the
stores hold nothing else.
-/

set_option autoImplicit false

namespace MeterSync

/-! ## Entries -/

/-- The intent is for the cell that it is filed under, the cell exists, and two bands are asked for
it that are in order and fit the wire. -/
structure Intent.Canonical (pipelines : PipelineTable) (handle : CellHandle) (intent : Intent) :
    Prop where
  own : intent.handle = handle
  meter : intent.meter.handle = handle
  inside : ∃ pipeline, pipelines.get? handle.device = some pipeline ∧
    ∃ array ∈ pipeline.arrays, array.id = handle.cell.meter ∧ handle.cell.index < array.size
  bands : ∃ committed peak, intent.config = ⟨handle.cell, .modify committed peak⟩
  regular : intent.config.state.Regular

/-- The configuration is for the cell that it is filed under, and is a reset or has two bands in
order. The wire carries it there and back. -/
structure CellConfig.Canonical (pipelines : PipelineTable) (handle : CellHandle)
    (config : CellConfig) : Prop where
  own : config.cell = handle.cell
  fits : handle.cell.index ≤ Codec.maxWireValue
  carried : ∃ pipeline, pipelines.get? handle.device = some pipeline ∧
    (∃ array ∈ pipeline.arrays, array.id = handle.cell.meter) ∧ Codec.Carries pipeline config
  regular : config.state.Regular

section Entries

variable {pipelines : PipelineTable} {device : DeviceId} {pipeline : Pipeline}

theorem Intent.canonical_of_requested {operation : Operation} {config : CellConfig}
    (found : pipelines.get? operation.meter.device = some pipeline)
    (requested : pipeline.requested operation = .ok config) (keeps : operation.kind ≠ .remove) :
    Canonical pipelines operation.meter.handle
      ⟨operation.meter, config, operation.meter.handle⟩ := by
  have resolved := Pipeline.resolve_of_keeps requested keeps
  obtain ⟨committed, peak, rfl, regular⟩ := Pipeline.resolve_modify resolved
  exact ⟨rfl, rfl, ⟨pipeline, found, Pipeline.array_of_resolve resolved⟩, ⟨committed, peak, rfl⟩,
    regular⟩

theorem CellConfig.canonical_of_encode (found : pipelines.get? device = some pipeline)
    {config : CellConfig} (regular : config.state.Regular) {entry : Wire.Entry}
    (encoded : Codec.encode pipeline config = .ok entry) :
    config.Canonical pipelines (config.handle device) := by
  obtain ⟨_, key, _⟩ := (Codec.encode_eq_ok_iff regular).mp encoded
  obtain ⟨array, member, named, fits, _⟩ := Codec.encodeKey_eq_ok_iff.mp key
  have carries : Codec.Carries pipeline config :=
    ⟨entry, encoded, Codec.decode_of_encode regular encoded⟩
  exact ⟨rfl, fits, ⟨pipeline, found, ⟨array, member, named⟩, carries⟩, regular⟩

/-- Whatever a client answers, what it decodes to is canonical. -/
theorem CellConfig.canonical_of_decode (found : pipelines.get? device = some pipeline)
    {config : CellConfig} {entry : Wire.Entry}
    (decoded : Codec.decode pipeline entry = .ok config) :
    config.Canonical pipelines (config.handle device) :=
  canonical_of_encode found (Codec.decode_regular decoded) (Codec.encode_of_decode decoded)

end Entries

/-! ## Accesses -/

/-- What the access puts into a store may stand there. -/
def Access.Canonical (pipelines : PipelineTable) : Access → Prop
  | .settle operation config =>
    ∃ pipeline, pipelines.get? operation.meter.device = some pipeline ∧
      pipeline.requested operation = .ok config
  | .record handle config => config.Canonical pipelines handle
  | .count _ => True
  | .intent _ => True
  | .shown _ => True
  | .write _ _ => True
  | .read _ _ => True

/-- Both stores hold only canonical entries. -/
structure Coordinator.Canonical {Shadow Connection : Type} [ShadowStore Shadow]
    (pipelines : PipelineTable) (coordinator : Coordinator Shadow Connection) : Prop where
  table : coordinator.pipelines = pipelines
  intents : ∀ handle intent, coordinator.intents.lookup handle = some intent →
    intent.Canonical pipelines handle
  shadow : ∀ handle config, ShadowStore.find? coordinator.shadow handle = some config →
    config.Canonical pipelines handle

theorem Coordinator.Canonical.perform {Shadow Connection : Type} [ShadowStore Shadow]
    [LawfulShadow Shadow] [Client Connection] {pipelines : PipelineTable}
    {coordinator : Coordinator Shadow Connection} (canonical : coordinator.Canonical pipelines)
    {access : Access} (permitted : access.Canonical pipelines) :
    (access.perform coordinator).2.Canonical pipelines := by
  obtain ⟨same, intents, shadow⟩ := canonical
  cases access with
  | count amount => exact ⟨same, intents, shadow⟩
  | intent handle => exact ⟨same, intents, shadow⟩
  | shown handle => exact ⟨same, intents, shadow⟩
  | write device entries => exact ⟨same, intents, shadow⟩
  | read device wireIds => exact ⟨same, intents, shadow⟩
  | settle operation config =>
      obtain ⟨pipeline, found, requested⟩ := permitted
      refine ⟨same, ?_, shadow⟩
      intro handle intent held
      simp only [Access.perform, IntentStore.lookup_settled] at held
      split at held
      · rename_i here
        subst here
        split at held
        · cases held
        · rename_i keeps
          cases held
          exact Intent.canonical_of_requested found requested keeps
      · exact intents handle intent held
  | record other config =>
      refine ⟨same, intents, ?_⟩
      intro handle shown held
      simp only [Access.perform, LawfulShadow.find?_put] at held
      split at held
      · rename_i here
        obtain ⟨rfl, _⟩ := here
        cases held
        exact permitted
      · exact shadow handle shown held

/-! ## Requests, access by access -/

namespace Routine

variable {pipelines : PipelineTable} {device : DeviceId} {pipeline : Pipeline}

theorem ask_leads (access : Access) (canonical : access.Canonical pipelines) :
    (ask access : Routine Access.Answer access.Answer).Leads (Access.Canonical pipelines)
      fun _ => True :=
  .step canonical fun _ => .done trivial

/-- Only configurations that were encoded are taken of a batch. -/
def Taken (pipeline : Pipeline) (batch : WriteBatch) (outcome : BatchOutcome) : Prop :=
  outcome.outcomes.map (·.config) = batch.configs ∧
    ∀ config ∈ outcome.accepted, ∃ entry, Codec.encode pipeline config = .ok entry

theorem submit_leads (pipelines : PipelineTable) (pipeline : Pipeline) (batch : WriteBatch) :
    (submit pipeline batch).Leads (Access.Canonical pipelines) (Taken pipeline batch) := by
  unfold submit
  cases encoded : Codec.encodeAll pipeline batch.configs with
  | error error =>
      -- Nothing is sent and nothing taken.
      refine .done ⟨by simp [WriteBatch.allFailed, Function.comp_def], ?_⟩
      rw [WriteBatch.accepted_allFailed]
      exact List.forall_mem_nil _
  | ok entries =>
      refine (ask_leads (.write _ _) trivial).bind fun answer _ => ?_
      have configs := batch.outcome_configs answer
      refine .done ⟨configs, ?_⟩
      intro config taken
      have member := BatchOutcome.mem_accepted taken
      rw [configs] at member
      exact Codec.exists_encode_of_encodeAll encoded member

theorem conclude_leads (found : pipelines.get? device = some pipeline) {config : CellConfig}
    (regular : config.state.Regular) {outcome : BatchOutcome}
    (taken : Taken pipeline ⟨device, [config]⟩ outcome) :
    (conclude (config.handle device) config outcome).Leads (Access.Canonical pipelines)
      fun _ => True := by
  obtain ⟨configs, encoded⟩ := taken
  unfold conclude
  cases refusals : outcome.refusals with
  | cons reason reasons => exact (ask_leads (.count _) trivial).bind fun _ _ => .done trivial
  | nil =>
      have accepted := (BatchOutcome.refusals_eq_nil_iff.mp refusals).trans configs
      obtain ⟨entry, encoded⟩ := encoded config (by simp [accepted])
      have canonical := CellConfig.canonical_of_encode found regular encoded
      exact (ask_leads (.record _ _) canonical).bind fun _ _ => .done trivial

theorem deliver_leads (found : pipelines.get? device = some pipeline) {config : CellConfig}
    (regular : config.state.Regular) :
    (deliver pipeline (config.handle device) config).Leads (Access.Canonical pipelines)
      fun _ => True := by
  unfold deliver
  refine (ask_leads (.shown _) trivial).bind fun shown _ => ?_
  split
  · exact (ask_leads (.count _) trivial).bind fun _ _ => .done trivial
  · refine (ask_leads (.count _) trivial).bind fun _ _ => ?_
    exact (submit_leads ..).bind fun outcome taken => conclude_leads found regular taken

theorem process_leads (pipelines : PipelineTable) (operation : Operation) :
    (process pipelines operation).Leads (Access.Canonical pipelines) fun _ => True := by
  unfold process
  cases found : pipelines.get? operation.meter.device with
  | none => exact .done trivial
  | some pipeline =>
      refine (ask_leads (.count _) trivial).bind fun _ _ => ?_
      cases requested : pipeline.requested operation with
      | error error => exact (ask_leads (.count _) trivial).bind fun _ _ => .done trivial
      | ok config =>
          obtain ⟨_, regular⟩ := Pipeline.requested_spec requested
          have settles : Access.Canonical pipelines (.settle operation config) :=
            ⟨pipeline, found, requested⟩
          refine (ask_leads _ settles).bind fun _ _ => ?_
          rw [← Pipeline.requested_handle requested]
          exact deliver_leads found regular

theorem record_leads {configs : List CellConfig}
    (canonical : ∀ config ∈ configs, config.Canonical pipelines (config.handle device)) :
    (record device configs).Leads (Access.Canonical pipelines) fun _ => True := by
  have each : (record device configs).Leads (Access.Canonical pipelines)
      fun results => ∀ result ∈ results, True := by
    apply Leads.inOrder
    intro routine listed
    obtain ⟨config, member, rfl⟩ := List.mem_map.mp listed
    exact ask_leads (.record _ _) (canonical config member)
  simpa only [implies_true] using each

theorem judge_leads (pipelines : PipelineTable) (device : DeviceId) (config : CellConfig) :
    (judge device config).Leads (Access.Canonical pipelines) fun _ => True := by
  unfold judge
  refine (ask_leads (.intent _) trivial).bind fun intent _ => ?_
  cases intent with
  | none => exact .done trivial
  | some intent =>
      dsimp only
      split
      · exact .done trivial
      · exact (ask_leads (.shown _) trivial).bind fun _ _ => .done trivial

theorem correction?_leads (pipelines : PipelineTable) (device : DeviceId) (config : CellConfig)
    (verdict : Verdict) :
    (correction? device config verdict).Leads (Access.Canonical pipelines)
      fun reset => ∀ config ∈ reset, config.state = .reset := by
  cases verdict with
  | consistent meter => exact .done (by simp)
  | default => exact .done (by simp)
  | inconsistent =>
      refine (ask_leads (.shown _) trivial).bind fun shown _ => ?_
      refine .done ?_
      split <;> simp

theorem correct_leads (found : pipelines.get? device = some pipeline) {configs : List CellConfig}
    (regular : ∀ config ∈ configs, config.state.Regular) :
    (correct pipeline ⟨device, configs⟩).Leads (Access.Canonical pipelines) fun _ => True := by
  unfold correct
  split
  · exact .done trivial
  · refine (submit_leads ..).bind fun outcome taken => ?_
    obtain ⟨sameConfigs, encoded⟩ := taken
    refine (record_leads ?_).bind fun _ _ => ?_
    · intro config accepted
      have member := BatchOutcome.mem_accepted accepted
      rw [sameConfigs] at member
      obtain ⟨entry, encoded⟩ := encoded config accepted
      exact CellConfig.canonical_of_encode found (regular config member) encoded
    · exact (ask_leads (.count _) trivial).bind fun _ _ => .done trivial

theorem repair_leads (found : pipelines.get? device = some pipeline) (readout : Readout) :
    (repair pipeline device readout).Leads (Access.Canonical pipelines) fun _ => True := by
  unfold repair
  have judged : ∀ routine ∈ readout.configs.map fun config => (do
      let verdict ← judge device config
      return (config, verdict) : Routine Access.Answer (CellConfig × Verdict)),
      routine.Leads (Access.Canonical pipelines) fun _ => True := by
    intro routine listed
    obtain ⟨config, _, rfl⟩ := List.mem_map.mp listed
    exact (judge_leads pipelines device config).bind fun _ _ => .done trivial
  refine (Leads.inOrder judged).bind fun verdicts _ => ?_
  have corrected : ∀ routine ∈ verdicts.map fun each => correction? device each.1 each.2,
      routine.Leads (Access.Canonical pipelines)
        fun reset => ∀ config ∈ reset, config.state = .reset := by
    intro routine listed
    obtain ⟨each, _, rfl⟩ := List.mem_map.mp listed
    exact correction?_leads pipelines device each.1 each.2
  refine (Leads.inOrder corrected).bind fun resets all => ?_
  refine Leads.bind (correct_leads found ?_) fun _ _ => .done trivial
  intro config member
  have reset : config.state = .reset := by
    obtain wanted | undecodable := List.mem_append.mp member
    · obtain ⟨reset, listed, given⟩ := List.mem_filterMap.mp wanted
      exact all reset listed config given
    · obtain ⟨cell, _, rfl⟩ := List.mem_map.mp undecodable
      rfl
  rw [reset]
  exact .reset

theorem reconcile_leads (pipelines : PipelineTable) (device : DeviceId) :
    (reconcile pipelines device).Leads (Access.Canonical pipelines) fun _ => True := by
  unfold reconcile
  cases found : pipelines.get? device with
  | none => exact .done trivial
  | some pipeline =>
      refine (ask_leads (.count _) trivial).bind fun _ _ => ?_
      refine (ask_leads (.read _ _) trivial).bind fun answer _ => ?_
      cases answer with
      | error error => exact .done trivial
      | ok entries =>
          refine (record_leads ?_).bind fun _ _ => repair_leads found _
          intro config member
          obtain ⟨entry, _, decoded⟩ := Readout.mem_configs.mp member
          exact CellConfig.canonical_of_decode found decoded

end Routine

/-! ## Requests at any time -/

/-- The accesses that a request makes, whatever it reports. -/
def Request.routine (pipelines : PipelineTable) : Request → Routine Access.Answer Unit
  | .process operation => do
    let _ ← Routine.process pipelines operation
  | .reconcile device => do
    let _ ← Routine.reconcile pipelines device

theorem Request.routine_leads (pipelines : PipelineTable) (request : Request) :
    (request.routine pipelines).Leads (Access.Canonical pipelines) fun _ => True := by
  cases request with
  | process operation =>
      exact (Routine.process_leads pipelines operation).bind fun _ _ => .done trivial
  | reconcile device =>
      exact (Routine.reconcile_leads pipelines device).bind fun _ _ => .done trivial

section Reached

variable {Shadow Connection : Type} [ShadowStore Shadow] [Client Connection]

theorem Request.run_routine (coordinator : Coordinator Shadow Connection) (request : Request) :
    ((request.routine coordinator.pipelines).run Access.perform coordinator).2 =
      coordinator.serve request := by
  cases request with
  | process operation =>
      rw [routine, Routine.run_bind, Routine.run_process]
      rfl
  | reconcile device =>
      rw [routine, Routine.run_bind, Routine.run_reconcile]
      rfl

namespace Coordinator

/-- Where requests get that come in at any time and take turns at their accesses, while the
connection does what it likes: the routines with what is left of them, and the coordinator. -/
inductive Reached (start : Coordinator Shadow Connection) :
    List (Routine Access.Answer Unit) → Coordinator Shadow Connection → Prop where
  | start : Reached start [] start
  | request {routines : List (Routine Access.Answer Unit)}
      {coordinator : Coordinator Shadow Connection} (request : Request) :
      Reached start routines coordinator →
      Reached start (request.routine coordinator.pipelines :: routines) coordinator
  | turn {before after : List (Routine Access.Answer Unit)} {access : Access}
      {next : access.Answer → Routine Access.Answer Unit}
      {coordinator : Coordinator Shadow Connection} :
      Reached start (before ++ .step access next :: after) coordinator →
      Reached start (before ++ next (access.perform coordinator).1 :: after)
        (access.perform coordinator).2
  | drift {routines : List (Routine Access.Answer Unit)}
      {coordinator : Coordinator Shadow Connection} (connection : Connection) :
      Reached start routines coordinator →
      Reached start routines { coordinator with connection }

variable {start : Coordinator Shadow Connection}

theorem Reached.finish {routine : Routine Access.Answer Unit}
    {routines : List (Routine Access.Answer Unit)} {coordinator : Coordinator Shadow Connection}
    (reached : Reached start (routine :: routines) coordinator) :
    Reached start (.done (routine.run Access.perform coordinator).1 :: routines)
      (routine.run Access.perform coordinator).2 := by
  induction routine generalizing coordinator with
  | done result => exact reached
  | step access next ih =>
      have turned : Reached start ([] ++ next (access.perform coordinator).1 :: routines)
          (access.perform coordinator).2 := .turn reached
      exact ih _ turned

/-- To serve requests one after the other is one way for them to take turns. -/
theorem reached_serveAll (start : Coordinator Shadow Connection) (requests : List Request) :
    ∃ routines, Reached start routines (start.serveAll requests) := by
  refine serveAll_induction
    (motive := fun coordinator => ∃ routines, Reached start routines coordinator)
    ⟨[], .start⟩ ?_ requests
  intro coordinator request reached
  obtain ⟨routines, reached⟩ := reached
  have finished := (reached.request request).finish
  rw [Request.run_routine] at finished
  exact ⟨_, finished⟩

variable [LawfulShadow Shadow] {pipelines : PipelineTable}

/-- Each turn is a canonical access, and what is left of the routines makes no others. -/
theorem Reached.canonical {routines : List (Routine Access.Answer Unit)}
    {coordinator : Coordinator Shadow Connection} (reached : Reached start routines coordinator)
    (begun : start.Canonical pipelines) :
    coordinator.Canonical pipelines ∧
      ∀ routine ∈ routines, routine.Leads (Access.Canonical pipelines) fun _ => True := by
  induction reached with
  | start => exact ⟨begun, List.forall_mem_nil _⟩
  | request request _ ih =>
      obtain ⟨canonical, leads⟩ := ih
      refine ⟨canonical, List.forall_mem_cons.mpr ⟨?_, leads⟩⟩
      rw [canonical.table]
      exact request.routine_leads pipelines
  | turn _ ih =>
      obtain ⟨canonical, leads⟩ := ih
      obtain ⟨earlier, rest⟩ := List.forall_mem_append.mp leads
      obtain ⟨here, later⟩ := List.forall_mem_cons.mp rest
      -- Only this routine moves on, and whatever it was answered it stays within such accesses.
      cases here with
      | step permitted next =>
          refine ⟨canonical.perform permitted, List.forall_mem_append.mpr ⟨earlier, ?_⟩⟩
          exact List.forall_mem_cons.mpr ⟨next _, later⟩
  | drift connection _ ih =>
      obtain ⟨canonical, leads⟩ := ih
      exact ⟨⟨canonical.table, canonical.intents, canonical.shadow⟩, leads⟩

/-- Whatever requests are served, one after the other or in turns, and whatever the client does,
both stores hold only canonical entries: an intent is filed under its own handle and asks two bands
of a cell that exists, and what the shadow shows of a cell is for it and survives the wire. -/
theorem stores_stay_canonical (lockStripes : UInt64) (pipelines : PipelineTable) {shadow : Shadow}
    (blank : ∀ handle, ShadowStore.find? shadow handle = none) (connection : Connection) :
    let start := Coordinator.new lockStripes pipelines shadow connection
    (∀ requests, (start.serveAll requests).Canonical pipelines) ∧
      ∀ routines coordinator, Reached start routines coordinator →
        coordinator.Canonical pipelines := by
  intro start
  have begun : start.Canonical pipelines := by
    refine ⟨rfl, ?_, ?_⟩
    · intro handle intent held
      rw [show start.intents.lookup handle = none from IntentStore.lookup_empty handle] at held
      cases held
    · intro handle config held
      rw [show ShadowStore.find? start.shadow handle = none from blank handle] at held
      cases held
  constructor
  · intro requests
    obtain ⟨routines, reached⟩ := reached_serveAll start requests
    exact (reached.canonical begun).1
  · intro routines coordinator reached
    exact (reached.canonical begun).1

end Coordinator

end Reached

namespace Coordinator

/-- A client whose first read exchanges the bands of a cell, and shows one that does not exist. -/
def strayClient : ScriptedClient where
  simulator := .ofDevices [(Sample.device, Sample.pipeline)]
  sent := []
  writeAnswers := []
  readAnswers :=
    [.ok [⟨5, some 0, some Sample.numbers.exchanged⟩, ⟨5, some 9, some Sample.numbers⟩]]

theorem stores_canonical_stray :
    let start := new 1 Sample.pipelines (∅ : ShadowTable) strayClient
    let reached := start.serveAll [.process Sample.addition, .reconcile Sample.device]
    (∀ handle, ShadowStore.find? (∅ : ShadowTable) handle = none) ∧
      (reached.intents.lookup Sample.handle).map (·.config) =
        some (.modify Sample.handle.cell ⟨100, 10⟩ ⟨1000, 50⟩) ∧
      ShadowStore.find? reached.shadow Sample.handle =
        some (.modify Sample.handle.cell ⟨100, 10⟩ ⟨1000, 50⟩) ∧
      ShadowStore.find? reached.shadow ⟨Sample.device, Sample.meter, 9⟩ =
        some (.modify ⟨Sample.meter, 9⟩ ⟨100, 10⟩ ⟨1000, 50⟩) ∧
      reached.Canonical Sample.pipelines ∧
      ∃ routines, Reached start routines reached ∧ reached.Canonical Sample.pipelines := by
  intro start reached
  have blank : ∀ handle, ShadowStore.find? (∅ : ShadowTable) handle = none :=
    CellTable.find?_empty
  obtain ⟨served, turned⟩ := stores_stay_canonical 1 Sample.pipelines blank strayClient
  obtain ⟨routines, pool⟩ :=
    reached_serveAll start [.process Sample.addition, .reconcile Sample.device]
  exact ⟨blank, by decide +kernel, by decide +kernel, by decide +kernel, served _, routines, pool,
    turned _ _ pool⟩

end Coordinator

end MeterSync
