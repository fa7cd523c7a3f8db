import MeterSync.Proofs.Confirmation
import MeterSync.Proofs.Intents

/-!
# What failures leave in place

An operation that fails before anything is written has at most been counted. One that fails in the
write has settled what its cell is meant to hold, as if it had succeeded, and nothing else. A
reconciliation that cannot be made leaves at most its own count.
-/

set_option autoImplicit false

namespace MeterSync

theorem Client.cells_of_submit_refused {pipeline : Pipeline} {batch : WriteBatch}
    {simulator : Simulator} (nothing : (submit pipeline batch simulator).1.accepted = []) :
    (submit pipeline batch simulator).2.cells = simulator.cells := by
  -- As soon as one configuration is taken there is nothing left to show, so no step matters.
  have followed : (submit pipeline batch simulator).1.accepted = [] →
      (submit pipeline batch simulator).2.cells = simulator.cells := by
    apply submit_induction (motive := fun taken cells => taken = [] → cells = simulator.cells)
    · intro _
      rfl
    · intro taken cells config entry index _ _ _ _ added
      exact absurd added (List.append_ne_nil_of_right_ne_nil taken (List.cons_ne_nil config []))
  exact followed nothing

namespace Coordinator

section Failures

variable {Shadow Connection : Type} [ShadowStore Shadow] [Client Connection]
  {before after : Coordinator Shadow Connection} {operation : Operation}

theorem Processed.of_noPipeline {missing : DeviceId}
    (ended : Processed before operation (.error (.noPipeline missing)) after) :
    after = before := by
  cases ended
  rfl

theorem Processed.of_unresolved {error : ResolutionError}
    (ended : Processed before operation (.error (.unresolved error)) after) :
    after = before.count fun stats =>
      { stats with
        operations := stats.operations + 1
        resolutionFailures := stats.resolutionFailures + 1 } := by
  cases ended
  rfl

theorem Processed.of_writeFailed {target : DeviceId} {reason : String}
    (ended : Processed before operation (.error (.writeFailed target reason)) after) :
    after =
      { before with
        intents := before.intents.after before.pipelines operation
        stats :=
          { before.stats with
            operations := before.stats.operations + 1
            writesSubmitted := before.stats.writesSubmitted + 1
            writeFailures := before.stats.writeFailures + 1 }
        connection := after.connection } := by
  have intents := ended.intents
  cases ended with
  | refused _ _ _ _ _ _ =>
      rw [← intents]
      rfl

theorem Processed.cells_of_writeFailed {before after : Coordinator Shadow Simulator}
    {target : DeviceId} {reason : String}
    (ended : Processed before operation (.error (.writeFailed target reason)) after) :
    after.connection.cells = before.connection.cells := by
  cases ended with
  | @refused pipeline config outcome connection _ _ _ _ _ submitted _ nothing =>
      obtain ⟨rfl, rfl⟩ := Prod.ext_iff.mp submitted
      exact Client.cells_of_submit_refused nothing

theorem reconcile_of_unread {device : DeviceId} {pipeline : Pipeline} {error : ClientError}
    {connection : Connection} (found : before.pipeline? device = some pipeline)
    (unread : Client.readCells pipeline device (pipeline.arrays.map (·.id)) before.connection =
      (.error error, connection)) :
    before.reconcile device = (.empty, before.observed connection) := by
  simp only [reconcile, found, observe, count, unread]
  rfl

end Failures

theorem cells_of_unread {simulator after : Simulator} {pipeline : Pipeline} {device : DeviceId}
    {error : ClientError}
    (unread : Client.readCells pipeline device (pipeline.arrays.map (·.id)) simulator =
      (.error error, after)) : after.cells = simulator.cells := by
  simp only [Client.readCells, Codec.wireIds_arrays] at unread
  cases answered : Client.read simulator device pipeline.wireIds with
  | mk answer connection =>
      rw [answered] at unread
      cases answer with
      | error reason =>
          cases unread
          exact Simulator.cells_of_read answered
      | ok entries => cases unread

/-- A failed operation leaves everything as it was but its counts and, if it failed in the write,
the intent, which is settled just as a success settles it. A failed reconciliation leaves everything
but its count. No call is made before an operation has resolved, and no cell of a simulated device
changes by a write that failed. -/
theorem failures_leave_state {Shadow Connection : Type} [ShadowStore Shadow] [Client Connection]
    (before : Coordinator Shadow (RecordedClient Connection))
    (simulated : Coordinator Shadow Simulator) (operation : Operation) (device : DeviceId) :
    (∀ missing after, before.process operation = (.error (.noPipeline missing), after) →
      after = before) ∧
    (∀ error after, before.process operation = (.error (.unresolved error), after) →
      after =
        { before with
          stats :=
            { before.stats with
              operations := before.stats.operations + 1
              resolutionFailures := before.stats.resolutionFailures + 1 } }) ∧
    (∀ target reason after,
      before.process operation = (.error (.writeFailed target reason), after) →
      after =
        { before with
          intents := before.intents.after before.pipelines operation
          stats :=
            { before.stats with
              operations := before.stats.operations + 1
              writesSubmitted := before.stats.writesSubmitted + 1
              writeFailures := before.stats.writeFailures + 1 }
          connection := after.connection } ∧
      ∀ {OtherShadow OtherConnection : Type} [ShadowStore OtherShadow] [Client OtherConnection]
        (other succeeded : Coordinator OtherShadow OtherConnection),
        other.pipelines = before.pipelines → other.intents = before.intents →
          other.process operation = (.ok (), succeeded) → after.intents = succeeded.intents) ∧
    (∀ target reason after,
      simulated.process operation = (.error (.writeFailed target reason), after) →
        after.connection.cells = simulated.connection.cells) ∧
    (before.pipeline? device = none → before.reconcile device = (.empty, before)) ∧
    (∀ pipeline error connection, before.pipeline? device = some pipeline →
      Client.readCells pipeline device (pipeline.arrays.map (·.id)) before.connection =
          (.error error, connection) →
        before.reconcile device =
          (.empty,
            { before with
              stats :=
                { before.stats with reconciliations := before.stats.reconciliations + 1 }
              connection })) ∧
    ∀ pipeline error connection, simulated.pipeline? device = some pipeline →
      Client.readCells pipeline device (pipeline.arrays.map (·.id)) simulated.connection =
          (.error error, connection) →
        (simulated.reconcile device).2.connection.cells = simulated.connection.cells := by
  have ended := before.processed operation
  have simulatedEnded := simulated.processed operation
  refine ⟨?_, ?_, ?_, ?_, ?_, ?_, ?_⟩
  · intro missing after failed
    rw [failed] at ended
    exact ended.of_noPipeline
  · intro error after failed
    rw [failed] at ended
    exact ended.of_unresolved
  · intro target reason after failed
    rw [failed] at ended
    refine ⟨ended.of_writeFailed, ?_⟩
    intro _ _ _ _ other succeeded samePipelines sameIntents success
    have otherEnded := other.processed operation
    rw [success] at otherEnded
    rw [ended.intents, otherEnded.intents, samePipelines, sameIntents]
  · intro target reason after failed
    rw [failed] at simulatedEnded
    exact simulatedEnded.cells_of_writeFailed
  · intro missing
    simp only [reconcile, missing]
  · intro pipeline error connection found unread
    exact reconcile_of_unread found unread
  · intro pipeline error connection found unread
    rw [reconcile_of_unread found unread]
    exact cells_of_unread unread

/-- A device without a pipeline. -/
def stranger : DeviceId := ⟨"s", by decide⟩

/-- Every call fails, and none was made yet. -/
def failingSample : Coordinator ShadowTable (RecordedClient Simulator) where
  lockStripes := 1
  pipelines := Sample.pipelines
  intents := ∅
  shadow := (∅ : ShadowTable)
  stats := .zero
  connection :=
    { connection :=
        { Simulator.ofDevices [(Sample.device, Sample.pipeline)] with
          failWrites := true
          failReads := true }
      calls := [] }

def strayAddition : Operation :=
  { Sample.addition with meter := { Sample.addition.meter with device := stranger } }

/-- The addition with one band left out. -/
def meagreAddition : Operation :=
  { Sample.addition with
    meter := { Sample.addition.meter with bands := [⟨.uncolored, 100, some 10⟩] } }

theorem failures_leave_sample :
    (∃ after, failingSample.process strayAddition = (.error (.noPipeline stranger), after) ∧
      after = failingSample) ∧
    (∃ after, failingSample.process meagreAddition = (.error (.unresolved (.bandCount 1)), after) ∧
      after.stats = ⟨1, 0, 0, 0, 1, 0, 0, 0⟩ ∧ after.connection = failingSample.connection) ∧
    (∃ after, failingSample.process Sample.addition =
        (.error (.writeFailed Sample.device "device d is not reachable"), after) ∧
      after.stats = ⟨1, 1, 0, 1, 0, 0, 0, 0⟩ ∧ after.shadow = failingSample.shadow ∧
      after.intents = failingSample.intents.after Sample.pipelines Sample.addition) ∧
    (∃ after, failingSample.unrecorded.process Sample.addition =
        (.error (.writeFailed Sample.device "device d is not reachable"), after) ∧
      after.connection.cells = failingSample.unrecorded.connection.cells) ∧
    failingSample.reconcile stranger = (.empty, failingSample) ∧
    (failingSample.reconcile Sample.device).1 = .empty ∧
    (failingSample.reconcile Sample.device).2.stats = ⟨0, 0, 0, 0, 0, 1, 0, 0⟩ ∧
    (failingSample.unrecorded.reconcile Sample.device).2.connection.cells =
      failingSample.unrecorded.connection.cells := by
  have answer {Value State : Type} {pair : Value × State} {value : Value}
      (first : pair.1 = value) : pair = (value, pair.2) := Prod.ext first rfl
  have stray := answer (show (failingSample.process strayAddition).1 =
    .error (.noPipeline stranger) by decide +kernel)
  have meagre := answer (show (failingSample.process meagreAddition).1 =
    .error (.unresolved (.bandCount 1)) by decide +kernel)
  have refused := answer (show (failingSample.process Sample.addition).1 =
    .error (.writeFailed Sample.device "device d is not reachable") by decide +kernel)
  have simulatedRefused := answer (show (failingSample.unrecorded.process Sample.addition).1 =
    .error (.writeFailed Sample.device "device d is not reachable") by decide +kernel)
  have unread := answer (show (Client.readCells Sample.pipeline Sample.device [Sample.meter]
    failingSample.connection).1 = .error (.unreachable Sample.device) by decide +kernel)
  have simulatedUnread := answer (show (Client.readCells Sample.pipeline Sample.device
    [Sample.meter] failingSample.unrecorded.connection).1 =
      .error (.unreachable Sample.device) by decide +kernel)
  obtain ⟨strayLeft, _, _, _, unknown, _⟩ :=
    failures_leave_state failingSample failingSample.unrecorded strayAddition stranger
  obtain ⟨_, meagreLeft, _⟩ :=
    failures_leave_state failingSample failingSample.unrecorded meagreAddition stranger
  obtain ⟨_, _, refusedLeft, simulatedLeft, _, readLeft, simulatedReadLeft⟩ :=
    failures_leave_state failingSample failingSample.unrecorded Sample.addition Sample.device
  have meagreEnd := meagreLeft _ _ meagre
  obtain ⟨refusedEnd, _⟩ := refusedLeft _ _ _ refused
  have readEnd := readLeft Sample.pipeline _ _ (by decide +kernel) unread
  refine ⟨⟨_, stray, strayLeft _ _ stray⟩, ⟨_, meagre, ?_, ?_⟩, ⟨_, refused, ?_, ?_, ?_⟩,
    ⟨_, simulatedRefused, simulatedLeft _ _ _ simulatedRefused⟩, unknown (by decide +kernel),
    ?_, ?_, simulatedReadLeft Sample.pipeline _ _ (by decide +kernel) simulatedUnread⟩
  · rw [meagreEnd]
    rfl
  · rw [meagreEnd]
  · rw [refusedEnd]
    rfl
  · rw [refusedEnd]
  · rw [refusedEnd]
    rfl
  · rw [readEnd]
  · rw [readEnd]
    rfl

end Coordinator

end MeterSync
