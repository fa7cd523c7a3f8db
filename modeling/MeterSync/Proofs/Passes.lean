import MeterSync.Proofs.Commutation
import MeterSync.Proofs.Concurrency.Gathering
import MeterSync.Proofs.Daemon
import MeterSync.Proofs.Statistics

/-!
# Passes over all devices at once

A pass has a task for every device. The tasks take turns in any way, their reports are gathered as
they finish, and then put in order by device. A task touches nothing but what is held for its own
device, so nothing of this can be seen: a pass reports, and leaves, what it does when it takes the
devices one after the other.
-/

set_option autoImplicit false

namespace MeterSync

/-! ## Reports in order -/

/-- Reports by ascending device. -/
def Report.sort (reports : List (DeviceId × Report)) : List (DeviceId × Report) :=
  reports.mergeSort fun first second => (compare first.1 second.1).isLE

/-- In whatever order they come, reports on different devices are put in the one order by device. -/
theorem Report.sort_eq_of_perm {gathered reports : List (DeviceId × Report)}
    (ascending : (reports.map (·.1)).Pairwise fun first second => compare first second = .lt)
    (permuted : gathered.Perm reports) : sort gathered = reports :=
  mergeSort_eq_of_perm ascending permuted

/-! ## Tasks -/

namespace Routine

/-- The task of a pass for one device. -/
def reportOn (pipelines : PipelineTable) (device : DeviceId) :
    Routine Access.Answer (DeviceId × Report) := do
  let report ← reconcile pipelines device
  return (device, report)

theorem reportOn_within (pipelines : PipelineTable) (device : DeviceId) :
    (reportOn pipelines device).Within (Access.Inside fun place => place.device = device) :=
  (reconcile_within pipelines device).bind fun _ => .done _

end Routine

namespace Coordinator

section Sequences

variable {Shadow Connection : Type} [ShadowStore Shadow] [Client Connection]

theorem run_reportOn (coordinator : Coordinator Shadow Connection) (device : DeviceId) :
    (Routine.reportOn coordinator.pipelines device).run Access.perform coordinator =
      ((device, (coordinator.reconcile device).1), (coordinator.reconcile device).2) := by
  rw [Routine.reportOn, Routine.run_bind, Routine.run_reconcile, Routine.run_pure]

theorem run_reconcileAll (coordinator : Coordinator Shadow Connection) (devices : List DeviceId) :
    (Routine.inOrder (devices.map (Routine.reportOn coordinator.pipelines))).run Access.perform
        coordinator =
      coordinator.reconcileAll devices := by
  induction devices generalizing coordinator with
  | nil => rfl
  | cons device devices ih =>
      obtain ⟨pipelines, _⟩ := (coordinator.reconciled device).frame
      have later := ih (coordinator.reconcile device).2
      rw [pipelines] at later
      rw [List.map_cons, Routine.run_inOrder_cons, run_reportOn, later]
      rfl

end Sequences

theorem reportOn_apart (pipelines : PipelineTable) {first second : DeviceId}
    (differs : first ≠ second) :
    Routine.Apart (Access.perform : Handler Access.Answer (Coordinator ShadowTable Simulator)) Same
      (Routine.reportOn pipelines first) (Routine.reportOn pipelines second) := by
  apply Routine.apart_of_disjoint (Routine.reportOn_within pipelines first)
    (Routine.reportOn_within pipelines second)
  intro place own otherOwn
  exact differs (own.symm.trans otherOwn)

theorem tasks_apart (pipelines : PipelineTable) {devices : List DeviceId}
    (distinct : devices.Nodup) :
    (devices.map (Routine.reportOn pipelines)).Pairwise
      (Routine.Apart (Access.perform : Handler Access.Answer (Coordinator ShadowTable Simulator))
        Same) :=
  List.pairwise_map.mpr (distinct.imp (reportOn_apart pipelines))

theorem reconcileAll_alone (start : Coordinator ShadowTable Simulator) {devices : List DeviceId}
    (distinct : devices.Nodup) :
    (start.reconcileAll devices).1 =
      devices.map fun device => (device, (start.reconcile device).1) := by
  rw [← run_reconcileAll]
  apply Routine.run_inOrder_map_alone Access.perform_respects
  · exact tasks_apart start.pipelines distinct
  · exact fun device => congrArg Prod.fst (run_reportOn start device)

end Coordinator

/-! ## The pass -/

namespace Daemon

/-- A pass has one outcome. It reports once on every device that has a pipeline, by ascending name
and as if it reconciled that device alone. However the tasks of the devices take turns, and in
whatever order they finish, the reports put in order are these, and the intents, shadow, cells and
counts that are left are those of reconciling the devices one after the other, in any order. -/
theorem pass_has_one_outcome (daemon : Daemon) :
    let start := daemon.coordinator
    let pass := daemon.reconcileOnce
    let tasks := start.devices.map (Routine.reportOn start.pipelines)
    (pass.1.map (·.1)).Pairwise (fun first second => compare first second = .lt) ∧
      (∀ device, device ∈ pass.1.map (·.1) ↔ (start.pipeline? device).isSome = true) ∧
      (∀ entry ∈ pass.1, entry.2 = (start.reconcile entry.1).1) ∧
      (∀ gathered ended, Routine.Gathers Access.perform tasks start gathered ended →
        Report.sort gathered = pass.1 ∧ ended.Same pass.2.coordinator) ∧
      (∀ order : List DeviceId, order.Perm start.devices →
        (start.reconcileAll order).2.Same pass.2.coordinator) ∧
      ∀ gathered : List (DeviceId × Report), gathered.Perm pass.1 →
        Routine.Gathers Access.perform tasks start gathered pass.2.coordinator := by
  intro start pass tasks
  have names : pass.1.map (·.1) = start.devices := start.reconcileAll_devices start.devices
  have ascending : start.devices.Pairwise fun first second => compare first second = .lt :=
    Std.TreeMap.ordered_keys
  have distinct : start.devices.Nodup := Std.TreeMap.nodup_keys
  have alone : pass.1 = start.devices.map fun device => (device, (start.reconcile device).1) :=
    start.reconcileAll_alone distinct
  have apart := Coordinator.tasks_apart start.pipelines distinct
  have inOrder := start.run_reconcileAll start.devices
  rw [names]
  refine ⟨ascending, ?_, ?_, ?_, ?_, ?_⟩
  · intro device
    exact Std.TreeMap.mem_keys.trans PipelineTable.mem_iff
  · intro entry member
    rw [alone] at member
    obtain ⟨device, _, rfl⟩ := List.mem_map.mp member
    rfl
  · intro gathered ended gathers
    obtain ⟨results, left⟩ := gathers.perm_inOrder Access.perform_respects apart
    rw [inOrder] at results left
    exact ⟨Report.sort_eq_of_perm (names ▸ ascending) results, left⟩
  · intro order permuted
    have reordered := Routine.run_inOrder_perm Access.perform_respects
      (permuted.map (Routine.reportOn start.pipelines))
      (Coordinator.tasks_apart start.pipelines (permuted.nodup_iff.mpr distinct)) start
    rw [start.run_reconcileAll, start.run_reconcileAll] at reordered
    exact reordered
  · intro gathered permuted
    have interleaved := Routine.Interleaves.inOrder Access.perform tasks start
    rw [inOrder] at interleaved
    exact interleaved.gathers permuted

/-- Two devices, the first of which holds bands in a cell that nothing is meant for. -/
def Sample.drifted : Daemon where
  interval := 1000
  coordinator :=
    { Coordinator.twins with
      connection :=
        (Coordinator.twins.connection.write Sample.device
          [⟨5, some 0, some Sample.numbers⟩]).2 }
  stopped := false

/-- The reports are gathered the other way round. -/
theorem drifted_pass_has_one_outcome :
    let start := Sample.drifted.coordinator
    let gathered : List (DeviceId × Report) :=
      [(Coordinator.twin, ⟨[], 1, 0, 0, 0⟩), (Sample.device, ⟨[], 1, 1, 0, 0⟩)]
    ∃ ended,
      Routine.Gathers Access.perform (start.devices.map (Routine.reportOn start.pipelines)) start
        gathered ended ∧
      Report.sort gathered = gathered.reverse ∧
      start.connection.cell? Sample.device 5 0 = some Sample.numbers ∧
      ended.connection.cell? Sample.device 5 0 = none ∧
      (start.reconcileAll [Coordinator.twin, Sample.device]).2.Same ended := by
  intro start gathered
  obtain ⟨_, _, _, unique, ordered, possible⟩ := pass_has_one_outcome Sample.drifted
  have passed : Sample.drifted.reconcileOnce.1 = gathered.reverse := by decide +kernel
  have gathers := possible gathered (passed ▸ (List.reverse_perm gathered).symm)
  refine ⟨_, gathers, (unique gathered _ gathers).1.trans passed, ?_, ?_, ?_⟩
  · decide +kernel
  · decide +kernel
  · exact ordered _ (.swap ..)

end Daemon

end MeterSync
