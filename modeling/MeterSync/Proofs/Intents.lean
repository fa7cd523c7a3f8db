import MeterSync.Client.Scripted
import MeterSync.Proofs.Coordinator.Run

/-!
# Intents follow operations

What a cell is meant to hold is settled by operations alone. Reconciliations, answers of the client
and whatever the shadow shows leave the intents as they are, also when the shadow and the connection
are changed by others between two requests.
-/

set_option autoImplicit false

namespace MeterSync

/-- The operation settles what its cell is meant to hold: its device has a pipeline, and the meter
resolves there unless it is removed. -/
def Operation.settles (pipelines : PipelineTable) (operation : Operation) : Bool :=
  match pipelines.get? operation.meter.device with
  | none => false
  | some pipeline => operation.kind == .remove || (pipeline.resolve operation.meter).isOk

/-- What an operation leaves its cell meant to hold, if it settles. -/
def Operation.intent? (pipelines : PipelineTable) (operation : Operation) : Option Intent :=
  match operation.kind with
  | .remove => none
  | .add | .modify =>
    (pipelines.get? operation.meter.device).bind fun pipeline =>
      (pipeline.resolve operation.meter).toOption.map fun config =>
        ⟨operation.meter, config, operation.meter.handle⟩

/-- The last of some operations that settles what a cell is meant to hold. -/
def lastSettled (pipelines : PipelineTable) (operations : List Operation) (handle : CellHandle) :
    Option Operation :=
  (operations.filter fun operation =>
    operation.meter.handle = handle && operation.settles pipelines).getLast?

theorem of_lastSettled {pipelines : PipelineTable} {operations : List Operation}
    {handle : CellHandle} {operation : Operation}
    (last : lastSettled pipelines operations handle = some operation) :
    operation.meter.handle = handle ∧ operation.settles pipelines = true := by
  obtain ⟨_, counts⟩ := List.mem_filter.mp (List.mem_of_getLast? last)
  simpa using counts

theorem Pipeline.requested_isOk (pipeline : Pipeline) (operation : Operation) :
    (pipeline.requested operation).isOk =
      (operation.kind == .remove || (pipeline.resolve operation.meter).isOk) := by
  rw [Pipeline.requested.eq_def]
  cases operation.kind <;> rfl

namespace Operation

variable {pipelines : PipelineTable} {operation : Operation}

theorem settles_iff :
    operation.settles pipelines = true ↔
      ∃ pipeline config, pipelines.get? operation.meter.device = some pipeline ∧
        pipeline.requested operation = .ok config := by
  rw [settles]
  cases pipelines.get? operation.meter.device with
  | none => simp
  | some pipeline =>
      simp only [← Pipeline.requested_isOk, Option.some.injEq, exists_and_left, exists_eq_left']
      cases pipeline.requested operation <;> simp [Except.isOk, Except.toBool]

theorem intent?_of_requested {pipeline : Pipeline}
    (found : pipelines.get? operation.meter.device = some pipeline) {config : CellConfig}
    (requested : pipeline.requested operation = .ok config) :
    operation.intent? pipelines =
      if operation.kind = .remove then none
      else some ⟨operation.meter, config, operation.meter.handle⟩ := by
  rw [Pipeline.requested.eq_def] at requested
  rw [intent?.eq_def, found]
  cases kind : operation.kind with
  | remove => rfl
  | add =>
      rw [kind] at requested
      rw [Option.bind_some, show pipeline.resolve operation.meter = _ from requested]
      rfl
  | modify =>
      rw [kind] at requested
      rw [Option.bind_some, show pipeline.resolve operation.meter = _ from requested]
      rfl

theorem of_intent? {intent : Intent} (left : operation.intent? pipelines = some intent) :
    ∃ pipeline, pipelines.get? operation.meter.device = some pipeline ∧
      pipeline.resolve operation.meter = .ok intent.config := by
  rw [intent?.eq_def] at left
  split at left
  · cases left
  all_goals
    obtain ⟨pipeline, found, resolved⟩ := Option.bind_eq_some_iff.mp left
    obtain ⟨config, settled, rfl⟩ := Option.map_eq_some_iff.mp resolved
    refine ⟨pipeline, found, ?_⟩
    cases answer : pipeline.resolve operation.meter with
    | error error =>
        rw [answer] at settled
        cases settled
    | ok own =>
        rw [answer] at settled
        exact congrArg Except.ok (Option.some.inj settled)

theorem intent?_isSome_iff (settles : operation.settles pipelines = true) :
    (operation.intent? pipelines).isSome ↔ operation.kind ≠ .remove := by
  obtain ⟨pipeline, config, found, requested⟩ := settles_iff.mp settles
  rw [intent?_of_requested found requested]
  by_cases removes : operation.kind = .remove <;> simp [removes]

end Operation

namespace IntentStore

def after (pipelines : PipelineTable) (intents : IntentStore) (operation : Operation) :
    IntentStore :=
  match pipelines.get? operation.meter.device with
  | none => intents
  | some pipeline =>
    match pipeline.requested operation with
    | .error _ => intents
    | .ok config => intents.settled operation config

theorem after_of_requested {pipelines : PipelineTable} {operation : Operation}
    {pipeline : Pipeline} (found : pipelines.get? operation.meter.device = some pipeline)
    {config : CellConfig} (requested : pipeline.requested operation = .ok config)
    (intents : IntentStore) :
    intents.after pipelines operation = intents.settled operation config := by
  simp only [after, found, requested]

theorem lookup_after (pipelines : PipelineTable) (intents : IntentStore) (operation : Operation)
    (handle : CellHandle) :
    (intents.after pipelines operation).lookup handle =
      if operation.meter.handle = handle ∧ operation.settles pipelines = true then
        operation.intent? pipelines
      else intents.lookup handle := by
  by_cases settles : operation.settles pipelines = true
  · obtain ⟨pipeline, config, found, requested⟩ := Operation.settles_iff.mp settles
    rw [after_of_requested found requested, lookup_settled,
      Operation.intent?_of_requested found requested]
    simp only [settles, and_true]
  · have unchanged : intents.after pipelines operation = intents := by
      rw [after]
      split
      · rfl
      · rename_i pipeline found
        split
        · rfl
        · rename_i config requested
          exact absurd (Operation.settles_iff.mpr ⟨pipeline, config, found, requested⟩) settles
    rw [unchanged, if_neg fun both => settles both.2]

/-- Of several operations the last one that settles counts. -/
theorem lookup_foldl_after (pipelines : PipelineTable) (operations : List Operation)
    (intents : IntentStore) (handle : CellHandle) :
    (operations.foldl (after pipelines) intents).lookup handle =
      match lastSettled pipelines operations handle with
      | none => intents.lookup handle
      | some operation => operation.intent? pipelines := by
  induction operations generalizing intents with
  | nil => rfl
  | cons operation operations ih =>
      rw [List.foldl_cons, ih, lookup_after, lastSettled, lastSettled, List.filter_cons]
      by_cases counts : operation.meter.handle = handle ∧ operation.settles pipelines = true
      · rw [if_pos counts, if_pos (by simpa using counts), List.getLast?_cons]
        cases List.getLast? _ <;> rfl
      · rw [if_neg counts, if_neg (by simpa using counts)]

end IntentStore

/-- What can happen to a coordinator: something is asked of it, or its shadow and its connection are
changed by others. -/
inductive Incident (Shadow Connection : Type) where
  | request (request : Request)
  | disturbance (shadow : Shadow) (connection : Connection)

/-- The operations among some incidents, in order. -/
def Incident.operations {Shadow Connection : Type}
    (incidents : List (Incident Shadow Connection)) : List Operation :=
  incidents.filterMap fun
    | .request (.process operation) => some operation
    | .request (.reconcile _) => none
    | .disturbance _ _ => none

namespace Coordinator

variable {Shadow Connection : Type} [ShadowStore Shadow] [Client Connection]

theorem Processed.intents {coordinator after : Coordinator Shadow Connection}
    {operation : Operation} {result : Except OperationError Unit}
    (ended : Processed coordinator operation result after) :
    after.intents = coordinator.intents.after coordinator.pipelines operation := by
  cases ended with
  | unknown missing =>
      rw [pipeline?] at missing
      simp only [IntentStore.after, missing]
  | unresolved found requested =>
      rw [pipeline?] at found
      simp only [IntentStore.after, found, requested, count]
  | skipped found requested _ => exact (IntentStore.after_of_requested found requested _).symm
  | refused found requested _ _ _ _ =>
      exact (IntentStore.after_of_requested found requested _).symm
  | written found requested _ _ _ =>
      exact (IntentStore.after_of_requested found requested _).symm

def endure (coordinator : Coordinator Shadow Connection) :
    Incident Shadow Connection → Coordinator Shadow Connection
  | .request request => coordinator.serve request
  | .disturbance shadow connection => { coordinator with shadow, connection }

def endureAll (coordinator : Coordinator Shadow Connection)
    (incidents : List (Incident Shadow Connection)) : Coordinator Shadow Connection :=
  incidents.foldl endure coordinator

theorem endure_frame (coordinator : Coordinator Shadow Connection)
    (incident : Incident Shadow Connection) :
    (coordinator.endure incident).pipelines = coordinator.pipelines ∧
      (coordinator.endure incident).intents =
        (Incident.operations [incident]).foldl (IntentStore.after coordinator.pipelines)
          coordinator.intents := by
  cases incident with
  | disturbance shadow connection => exact ⟨rfl, rfl⟩
  | request request =>
      refine ⟨coordinator.serve_pipelines request, ?_⟩
      cases request with
      | process operation => exact (coordinator.processed operation).intents
      | reconcile device => exact (coordinator.reconciled device).frame.2

theorem endureAll_intents (coordinator : Coordinator Shadow Connection)
    (incidents : List (Incident Shadow Connection)) :
    (coordinator.endureAll incidents).intents =
      (Incident.operations incidents).foldl (IntentStore.after coordinator.pipelines)
        coordinator.intents := by
  induction incidents generalizing coordinator with
  | nil => rfl
  | cons incident incidents ih =>
      obtain ⟨pipelines, intents⟩ := coordinator.endure_frame incident
      have split : Incident.operations ([incident] ++ incidents) =
          Incident.operations [incident] ++ Incident.operations incidents := List.filterMap_append
      calc ((coordinator.endure incident).endureAll incidents).intents
          = (Incident.operations incidents).foldl
              (IntentStore.after (coordinator.endure incident).pipelines)
              (coordinator.endure incident).intents := ih (coordinator.endure incident)
        _ = (Incident.operations (incident :: incidents)).foldl
              (IntentStore.after coordinator.pipelines) coordinator.intents := by
            rw [pipelines, intents, ← List.foldl_append, ← split, List.singleton_append]

/-- Whatever clients answer, shadows show and others change: a cell is meant to hold what the last
operation that settled it asks for, and nothing if that one removes. Runs with the same operations
therefore end with the same intents. -/
theorem intents_follow_operations (lockStripes : UInt64) (pipelines : PipelineTable)
    (shadow : Shadow) (connection : Connection) (incidents : List (Incident Shadow Connection)) :
    let reached := (new lockStripes pipelines shadow connection).endureAll incidents
    let settled := lastSettled pipelines (Incident.operations incidents)
    (∀ handle, reached.intents.lookup handle = (settled handle).bind (·.intent? pipelines)) ∧
    (∀ handle, (reached.intents.lookup handle).isSome ↔
      ∃ operation, settled handle = some operation ∧ operation.kind ≠ .remove) ∧
    ∀ {OtherShadow OtherConnection : Type} [ShadowStore OtherShadow] [Client OtherConnection]
      (otherStripes : UInt64) (otherShadow : OtherShadow) (otherConnection : OtherConnection)
      (otherIncidents : List (Incident OtherShadow OtherConnection)),
      Incident.operations otherIncidents = Incident.operations incidents →
        ((new otherStripes pipelines otherShadow otherConnection).endureAll
          otherIncidents).intents = reached.intents := by
  intro reached settled
  have intents : reached.intents =
      (Incident.operations incidents).foldl (IntentStore.after pipelines) ∅ :=
    endureAll_intents _ incidents
  have lookup (handle : CellHandle) :
      reached.intents.lookup handle = (settled handle).bind (·.intent? pipelines) := by
    rw [intents, IntentStore.lookup_foldl_after, IntentStore.lookup_empty]
    change _ = (lastSettled pipelines (Incident.operations incidents) handle).bind _
    cases lastSettled pipelines (Incident.operations incidents) handle <;> rfl
  refine ⟨lookup, ?_, ?_⟩
  · intro handle
    rw [lookup]
    cases last : settled handle with
    | none => simp
    | some operation =>
        obtain ⟨_, settles⟩ := of_lastSettled last
        simpa using Operation.intent?_isSome_iff settles
  · intro _ _ _ _ otherStripes otherShadow otherConnection otherIncidents same
    rw [intents, ← same]
    exact endureAll_intents _ otherIncidents

/-- The addition reaches the device, all devices are lost, and a reconciliation finds none. -/
def disturbedRun : List (Incident ShadowTable Simulator) :=
  [.request (.process Sample.addition), .disturbance ∅ .empty,
    .request (.reconcile Sample.device)]

/-- A client that refuses the first write. -/
def refusingClient : ScriptedClient where
  simulator := .ofDevices [(Sample.device, Sample.pipeline)]
  sent := []
  writeAnswers := [.ok [some "refused"]]
  readAnswers := []

def refusedRun : List (Incident LossyShadow ScriptedClient) :=
  [.request (.reconcile Sample.device), .request (.process Sample.addition)]

theorem intents_same_after_refusal :
    Incident.operations refusedRun = Incident.operations disturbedRun ∧
      ((new 2 Sample.pipelines (LossyShadow.mk ∅ fun _ => true) refusingClient).endureAll
          refusedRun).intents =
        (Sample.start.endureAll disturbedRun).intents := by
  have same : Incident.operations refusedRun = Incident.operations disturbedRun := rfl
  obtain ⟨_, _, others⟩ := intents_follow_operations 1 Sample.pipelines (∅ : ShadowTable)
    (Simulator.ofDevices [(Sample.device, Sample.pipeline)]) disturbedRun
  exact ⟨same, others 2 (LossyShadow.mk ∅ fun _ => true) refusingClient refusedRun same⟩

end Coordinator

end MeterSync
