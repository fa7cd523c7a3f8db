import MeterSync.Coordinator.Processing
import MeterSync.Proofs.Resolution
import MeterSync.Proofs.Shadow
import MeterSync.Proofs.Submission

/-!
# How operations end

An operation ends in one of five ways, and each says what became of the intents, the shadow, the
connection and the counts. Nothing else about processing is needed to follow a run.
-/

set_option autoImplicit false

namespace MeterSync

/-! ## What an operation asks for -/

/-- The configuration that an operation asks for. -/
def Pipeline.requested (pipeline : Pipeline) (operation : Operation) :
    Except ResolutionError CellConfig :=
  match operation.kind with
  | .remove => .ok (.reset operation.meter.cell)
  | .add | .modify => pipeline.resolve operation.meter

/-- The intents once an operation has settled on a configuration. -/
def IntentStore.settled (intents : IntentStore) (operation : Operation) (config : CellConfig) :
    IntentStore :=
  match operation.kind with
  | .remove => intents.forget operation.meter.handle
  | .add | .modify =>
    intents.learn operation.meter.handle ⟨operation.meter, config, operation.meter.handle⟩

theorem IntentStore.lookup_settled (intents : IntentStore) (operation : Operation)
    (config : CellConfig) (handle : CellHandle) :
    (intents.settled operation config).lookup handle =
      if operation.meter.handle = handle then
        if operation.kind = .remove then none
        else some ⟨operation.meter, config, operation.meter.handle⟩
      else intents.lookup handle := by
  rw [settled]
  cases kind : operation.kind <;> simp

theorem Pipeline.resolve_modify {pipeline : Pipeline} {meter : Meter} {config : CellConfig}
    (resolved : pipeline.resolve meter = .ok config) :
    ∃ committed peak, config = ⟨meter.cell, .modify committed peak⟩ ∧ config.state.Regular := by
  obtain ⟨_, first, second, _, _, _, _, firstFits, secondFits, rfl⟩ :=
    Pipeline.resolve_eq_ok_iff.mp resolved
  exact ⟨_, _, rfl, CellConfig.regular_modify firstFits secondFits⟩

theorem Pipeline.requested_modify {pipeline : Pipeline} {operation : Operation}
    {config : CellConfig} (requested : pipeline.requested operation = .ok config)
    (keeps : operation.kind ≠ .remove) :
    ∃ committed peak, config.state = .modify committed peak := by
  rw [Pipeline.requested] at requested
  split at requested
  · exact absurd ‹_› keeps
  · obtain ⟨committed, peak, rfl, _⟩ := Pipeline.resolve_modify requested
    exact ⟨committed, peak, rfl⟩
  · obtain ⟨committed, peak, rfl, _⟩ := Pipeline.resolve_modify requested
    exact ⟨committed, peak, rfl⟩

theorem Pipeline.requested_spec {pipeline : Pipeline} {operation : Operation}
    {config : CellConfig} (requested : pipeline.requested operation = .ok config) :
    config.cell = operation.meter.cell ∧ config.state.Regular := by
  rw [Pipeline.requested] at requested
  split at requested
  · cases requested
    exact ⟨rfl, .reset⟩
  · obtain ⟨_, _, rfl, regular⟩ := Pipeline.resolve_modify requested
    exact ⟨rfl, regular⟩
  · obtain ⟨_, _, rfl, regular⟩ := Pipeline.resolve_modify requested
    exact ⟨rfl, regular⟩

theorem Pipeline.requested_handle {pipeline : Pipeline} {operation : Operation}
    {config : CellConfig} (requested : pipeline.requested operation = .ok config) :
    config.handle operation.meter.device = operation.meter.handle := by
  rw [CellConfig.handle, (Pipeline.requested_spec requested).1, Meter.handle]

namespace Coordinator

variable {Shadow Connection : Type}

theorem settle_eq (coordinator : Coordinator Shadow Connection) (pipeline : Pipeline)
    (operation : Operation) :
    coordinator.settle pipeline operation =
      match pipeline.requested operation with
      | .error error =>
        (.error error, coordinator.count fun stats =>
          { stats with resolutionFailures := stats.resolutionFailures + 1 })
      | .ok config =>
        (.ok config,
          { coordinator with intents := coordinator.intents.settled operation config }) := by
  simp only [settle, Pipeline.requested, IntentStore.settled]
  cases operation.kind with
  | remove => rfl
  | add => cases pipeline.resolve operation.meter <;> rfl
  | modify => cases pipeline.resolve operation.meter <;> rfl

theorem pipeline?_congr {coordinator after : Coordinator Shadow Connection}
    (same : after.pipelines = coordinator.pipelines) (device : DeviceId) :
    after.pipeline? device = coordinator.pipeline? device := by
  rw [pipeline?, same, pipeline?]

/-! ## The ways to end -/

/-- The coordinator once an operation has settled on a configuration and is counted. -/
def settled (coordinator : Coordinator Shadow Connection) (operation : Operation)
    (config : CellConfig) (change : Stats → Stats) : Coordinator Shadow Connection :=
  { coordinator with
    intents := coordinator.intents.settled operation config
    stats := change { coordinator.stats with operations := coordinator.stats.operations + 1 } }

variable [ShadowStore Shadow] [Client Connection]

/-- How an operation ends: what is returned and what the coordinator is afterwards. -/
inductive Processed (coordinator : Coordinator Shadow Connection) (operation : Operation) :
    Except OperationError Unit → Coordinator Shadow Connection → Prop where
  | unknown :
      coordinator.pipeline? operation.meter.device = none →
      Processed coordinator operation (.error (.noPipeline operation.meter.device)) coordinator
  | unresolved {pipeline : Pipeline} {error : ResolutionError} :
      coordinator.pipeline? operation.meter.device = some pipeline →
      pipeline.requested operation = .error error →
      Processed coordinator operation (.error (.unresolved error))
        (coordinator.count fun stats =>
          { stats with
            operations := stats.operations + 1
            resolutionFailures := stats.resolutionFailures + 1 })
  | skipped {pipeline : Pipeline} {config : CellConfig} :
      coordinator.pipeline? operation.meter.device = some pipeline →
      pipeline.requested operation = .ok config →
      ShadowStore.find? coordinator.shadow operation.meter.handle = some config →
      Processed coordinator operation (.ok ())
        (coordinator.settled operation config fun stats =>
          { stats with writesSkipped := stats.writesSkipped + 1 })
  | refused {pipeline : Pipeline} {config : CellConfig} {outcome : BatchOutcome}
      {connection : Connection} {reason : String} {reasons : List String} :
      coordinator.pipeline? operation.meter.device = some pipeline →
      pipeline.requested operation = .ok config →
      ShadowStore.find? coordinator.shadow operation.meter.handle ≠ some config →
      Client.submit pipeline ⟨operation.meter.device, [config]⟩ coordinator.connection =
        (outcome, connection) →
      outcome.refusals = reason :: reasons → outcome.accepted = [] →
      Processed coordinator operation (.error (.writeFailed operation.meter.device reason))
        { coordinator.settled operation config fun stats =>
            { stats with
              writesSubmitted := stats.writesSubmitted + 1
              writeFailures := stats.writeFailures + 1 } with
          connection }
  | written {pipeline : Pipeline} {config : CellConfig} {outcome : BatchOutcome}
      {connection : Connection} :
      coordinator.pipeline? operation.meter.device = some pipeline →
      pipeline.requested operation = .ok config →
      ShadowStore.find? coordinator.shadow operation.meter.handle ≠ some config →
      Client.submit pipeline ⟨operation.meter.device, [config]⟩ coordinator.connection =
        (outcome, connection) →
      outcome.accepted = [config] →
      Processed coordinator operation (.ok ())
        { coordinator.settled operation config fun stats =>
            { stats with writesSubmitted := stats.writesSubmitted + 1 } with
          connection
          shadow := ShadowStore.put coordinator.shadow operation.meter.handle config }

theorem processed (coordinator : Coordinator Shadow Connection) (operation : Operation) :
    Processed coordinator operation (coordinator.process operation).1
      (coordinator.process operation).2 := by
  cases found : coordinator.pipeline? operation.meter.device with
  | none =>
      simp only [process, found]
      exact .unknown found
  | some pipeline =>
      simp only [process, found, settle_eq]
      cases requested : pipeline.requested operation with
      | error error => exact .unresolved found requested
      | ok config =>
          have sameHandle := Pipeline.requested_handle requested
          simp only [deliver, sameHandle]
          by_cases shown :
              ShadowStore.find? coordinator.shadow operation.meter.handle = some config
          · have held : ShadowStore.holds coordinator.shadow operation.meter.handle config = true :=
              ShadowStore.holds_iff.mpr shown
            simp only [count, held, if_true]
            exact .skipped found requested shown
          · have missing :
                ShadowStore.holds coordinator.shadow operation.meter.handle config = false :=
              Bool.eq_false_iff.mpr fun held => shown (ShadowStore.holds_iff.mp held)
            simp only [count, missing, send, WriteBatch.empty, WriteBatch.push, List.nil_append]
            cases submitted : Client.submit pipeline ⟨operation.meter.device, [config]⟩
                coordinator.connection with
            | mk outcome connection =>
                have single : outcome.outcomes.map (·.config) = [config] := by
                  have configs := Client.submit_configs pipeline
                    ⟨operation.meter.device, [config]⟩ coordinator.connection
                  rwa [submitted] at configs
                cases refusals : outcome.refusals with
                | nil =>
                    have taken : outcome.accepted = [config] :=
                      (BatchOutcome.refusals_eq_nil_iff.mp refusals).trans single
                    have ended := Processed.written found requested shown submitted taken
                    rw [← sameHandle] at ended
                    simpa [conclude, refusals, settled, ShadowStore.recordBatch,
                      ShadowStore.record] using ended
                | cons reason reasons =>
                    have nothing : outcome.accepted = [] :=
                      BatchOutcome.accepted_of_singleton single (by simp [refusals])
                    have ended :=
                      Processed.refused found requested shown submitted refusals nothing
                    simpa [conclude, refusals, settled, count] using ended

theorem Processed.pipelines {coordinator after : Coordinator Shadow Connection}
    {operation : Operation} {result : Except OperationError Unit}
    (ended : Processed coordinator operation result after) :
    after.pipelines = coordinator.pipelines := by
  cases ended <;> rfl

end Coordinator

end MeterSync
