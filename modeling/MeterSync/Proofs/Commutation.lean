import MeterSync.Proofs.Concurrency.Requests

/-!
# Operations on distinct cells

Operations on distinct cells touch no common place, on one device as on several, since no two cells
share a key. It is therefore not seen in which order they run, nor how they take turns at their
accesses. The locks of the devices only rule out some ways to take turns, and the result does not
rest on them.
-/

set_option autoImplicit false

namespace MeterSync

namespace Coordinator

section Sequences

variable {Shadow Connection : Type} [ShadowStore Shadow] [Client Connection]

/-- Processes operations in order and returns all results. -/
def processAll (coordinator : Coordinator Shadow Connection) :
    List Operation → List (Except OperationError Unit) × Coordinator Shadow Connection
  | [] => ([], coordinator)
  | operation :: operations =>
    let first := coordinator.process operation
    let later := first.2.processAll operations
    (first.1 :: later.1, later.2)

theorem run_processAll (coordinator : Coordinator Shadow Connection)
    (operations : List Operation) :
    (Routine.inOrder (operations.map (Routine.process coordinator.pipelines))).run Access.perform
        coordinator =
      coordinator.processAll operations := by
  induction operations generalizing coordinator with
  | nil => rfl
  | cons operation operations ih =>
      have pipelines := (coordinator.processed operation).pipelines
      have later := ih (coordinator.process operation).2
      rw [pipelines] at later
      rw [List.map_cons, Routine.run_inOrder_cons, Routine.run_process, later]
      rfl

end Sequences

theorem process_apart (pipelines : PipelineTable) {first second : Operation}
    (differs : first.meter.handle ≠ second.meter.handle) :
    Routine.Apart (Access.perform : Handler Access.Answer (Coordinator ShadowTable Simulator)) Same
      (Routine.process pipelines first) (Routine.process pipelines second) := by
  apply Routine.apart_of_disjoint (Routine.process_within pipelines first)
    (Routine.process_within pipelines second)
  intro place owned otherOwned
  exact differs (Option.some.inj (owned.symm.trans otherOwned))

theorem processes_apart (pipelines : PipelineTable) {operations : List Operation}
    (distinct : (operations.map (·.meter.handle)).Nodup) :
    (operations.map (Routine.process pipelines)).Pairwise
      (Routine.Apart (Access.perform : Handler Access.Answer (Coordinator ShadowTable Simulator))
        Same) := by
  have different := List.pairwise_map.mp distinct
  exact List.pairwise_map.mpr (different.imp (process_apart pipelines))

theorem processAll_alone (start : Coordinator ShadowTable Simulator) {operations : List Operation}
    (distinct : (operations.map (·.meter.handle)).Nodup) :
    (start.processAll operations).1 =
      operations.map fun operation => (start.process operation).1 := by
  rw [← run_processAll]
  apply Routine.run_inOrder_map_alone Access.perform_respects
  · exact processes_apart start.pipelines distinct
  · exact fun operation => congrArg Prod.fst (Routine.run_process start operation)

/-- Operations on distinct cells have one outcome: each of them returns what it returns alone, and
in whatever order they run, and however they take turns at their accesses, they leave the same
intents, shadow, cells and counts as one after the other. -/
theorem distinct_operations_commute (start : Coordinator ShadowTable Simulator)
    (operations : List Operation) (distinct : (operations.map (·.meter.handle)).Nodup) :
    let result := fun operation => (start.process operation).1
    let last := (start.processAll operations).2
    let routines := operations.map (Routine.process start.pipelines)
    (start.processAll operations).1 = operations.map result ∧
      (∀ order : List Operation, order.Perm operations →
        (start.processAll order).1 = order.map result ∧ (start.processAll order).2.Same last) ∧
      Routine.Interleaves Access.perform routines start (operations.map result) last ∧
      ∀ results ended, Routine.Interleaves Access.perform routines start results ended →
        results = operations.map result ∧ ended.Same last := by
  intro result last routines
  have apart := processes_apart start.pipelines distinct
  have alone := processAll_alone start distinct
  have inOrder := run_processAll start operations
  refine ⟨alone, ?_, ?_, ?_⟩
  · intro order permuted
    have orderDistinct : (order.map (·.meter.handle)).Nodup :=
      (permuted.map _).nodup_iff.mpr distinct
    have ended := Routine.run_inOrder_perm Access.perform_respects
      (permuted.map (Routine.process start.pipelines))
      (processes_apart start.pipelines orderDistinct) start
    rw [run_processAll, run_processAll] at ended
    exact ⟨processAll_alone start orderDistinct, ended⟩
  · have interleaved := Routine.Interleaves.inOrder Access.perform routines start
    rwa [inOrder, alone] at interleaved
  · intro results ended interleaved
    obtain ⟨sameResults, sameState⟩ := interleaved.eq_inOrder Access.perform_respects apart
    rw [inOrder] at sameResults sameState
    exact ⟨sameResults.trans alone, sameState⟩

def twin : DeviceId := ⟨"t", by decide⟩

/-- The addition for the cell of the same name and index on the second device. -/
def twinAddition : Operation :=
  { Sample.addition with meter := { Sample.addition.meter with device := twin } }

def twins : Coordinator ShadowTable Simulator :=
  .new 1 ((Std.TreeMap.insert ∅ Sample.device Sample.pipeline).insert twin Sample.pipeline) ∅
    (.ofDevices [(Sample.device, Sample.pipeline), (twin, Sample.pipeline)])

theorem twin_operations_commute :
    ([Sample.addition, twinAddition].map (·.meter.handle)).Nodup ∧
      (twins.processAll [Sample.addition, twinAddition]).1 = [.ok (), .ok ()] ∧
      (twins.processAll [twinAddition, Sample.addition]).2.Same
        (twins.processAll [Sample.addition, twinAddition]).2 ∧
      ∃ ended, Routine.Interleaves Access.perform
          [Routine.process twins.pipelines Sample.addition,
            Routine.process twins.pipelines twinAddition] twins [.ok (), .ok ()] ended ∧
        ended.connection.cell? Sample.device 5 0 = some Sample.numbers ∧
        ended.connection.cell? twin 5 0 = some Sample.numbers := by
  have distinct : ([Sample.addition, twinAddition].map (·.meter.handle)).Nodup := by decide
  obtain ⟨alone, ordered, interleaved, _⟩ :=
    distinct_operations_commute twins [Sample.addition, twinAddition] distinct
  have results : (twins.processAll [Sample.addition, twinAddition]).1 = [.ok (), .ok ()] := by
    decide +kernel
  obtain ⟨_, same⟩ := ordered [twinAddition, Sample.addition] (.swap _ _ [])
  rw [← alone, results] at interleaved
  exact ⟨distinct, results, same, _, interleaved, by decide +kernel, by decide +kernel⟩

end Coordinator

end MeterSync
