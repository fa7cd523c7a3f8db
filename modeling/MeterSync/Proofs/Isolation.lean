import MeterSync.Proofs.Concurrency.Requests

/-!
# Devices do not see each other

Intents, shadows and simulated devices are kept in tables over all devices, and names, wire ids and
indices may be alike on any two of them. Yet whatever happens to other devices, requests for a
device are answered, and leave it, as if nothing had happened to the others.
-/

set_option autoImplicit false

namespace MeterSync

def Request.device : Request → DeviceId
  | .process operation => operation.meter.device
  | .reconcile device => device

/-- The device that an event is addressed to; none if it concerns all devices alike. -/
def Event.device? : Event → Option DeviceId
  | .request asked => some asked.device
  | .inject device _ _ _ => some device
  | .failWrites _ => none
  | .failReads _ => none

/-- The event is addressed to the device or to none. -/
def Event.concerns (device : DeviceId) (event : Event) : Bool :=
  event.device?.all (· = device)

inductive Reply where
  | processed (result : Except OperationError Unit)
  | reconciled (report : Report)
deriving DecidableEq, Repr

namespace Coordinator

section Replies

variable {Shadow Connection : Type} [ShadowStore Shadow] [Client Connection]

def reply (coordinator : Coordinator Shadow Connection) : Request → Reply
  | .process operation => .processed (coordinator.process operation).1
  | .reconcile device => .reconciled (coordinator.reconcile device).1

end Replies

/-- What is returned, in order, to the requests for a device among some events. -/
def replies (coordinator : Coordinator ShadowTable Simulator) (device : DeviceId) :
    List Event → List Reply
  | [] => []
  | event :: events =>
    let later := (coordinator.happen event).replies device events
    match event with
    | .request request =>
      if request.device = device then coordinator.reply request :: later else later
    | .inject .. => later
    | .failWrites _ => later
    | .failReads _ => later

end Coordinator

/-! ## Requests -/

namespace Routine

def serve (pipelines : PipelineTable) : Request → Routine Access.Answer Reply
  | .process operation => do
    let result ← process pipelines operation
    return .processed result
  | .reconcile device => do
    let report ← reconcile pipelines device
    return .reconciled report

theorem run_serve {Shadow Connection : Type} [ShadowStore Shadow] [Client Connection]
    (coordinator : Coordinator Shadow Connection) (request : Request) :
    (serve coordinator.pipelines request).run Access.perform coordinator =
      (coordinator.reply request, coordinator.serve request) := by
  cases request with
  | process operation =>
      rw [serve, run_bind, run_process, run_pure]
      rfl
  | reconcile device =>
      rw [serve, run_bind, run_reconcile, run_pure]
      rfl

theorem serve_within (pipelines : PipelineTable) (request : Request) :
    (serve pipelines request).Within
      (Access.Inside fun place => place.device = request.device) := by
  cases request with
  | process operation =>
      refine Within.bind ?_ fun _ => .done _
      apply (process_within pipelines operation).mono
      intro access inside
      exact inside.mono fun place owned => Place.device_of_owner? owned
  | reconcile device => exact (reconcile_within pipelines device).bind fun _ => .done _

end Routine

namespace Coordinator

variable {device : DeviceId} {first second : Coordinator ShadowTable Simulator}

/-- Requests do the same on a device wherever the same is held for it. -/
theorem serve_agree (agree : AgreeOn (fun place => place.device = device) first second)
    {request : Request} (here : request.device = device) :
    first.reply request = second.reply request ∧
      AgreeOn (fun place => place.device = device) (first.serve request)
        (second.serve request) := by
  subst here
  have served := (Routine.serve_within first.pipelines request).run_related
    Access.perform (fun access inside _ _ => access.perform_agree inside) agree
  have secondServed := Routine.run_serve second request
  rw [← agree.pipelines] at secondServed
  rwa [Routine.run_serve, secondServed] at served

theorem serve_apart (coordinator : Coordinator ShadowTable Simulator) {request : Request}
    (elsewhere : request.device ≠ device) :
    AgreeOn (fun place => place.device = device) (coordinator.serve request) coordinator := by
  have kept := (Routine.serve_within coordinator.pipelines request).run_preserves
    Access.perform
    (motive := fun reached => AgreeOn (fun place => place.device = device) reached coordinator)
    (by
      intro access inside reached agree
      refine (Access.perform_apart ?_ reached).trans agree
      exact inside.mono fun place own here => elsewhere (own.symm.trans here))
    (.refl _ coordinator)
  rwa [Routine.run_serve] at kept

end Coordinator

/-! ## Changes behind the back -/

namespace Simulator

theorem inject_local (simulator : Simulator) (device : DeviceId) (wireId : UInt32) (index : Int64)
    (config : Option Wire.Config) :
    (simulator.inject device wireId index config).cells =
      if ((simulator.layout device).bind (· wireId)).isSome then
        simulator.cells.set device wireId index config
      else simulator.cells := by
  cases known : simulator.devices.get? device with
  | none => simp only [inject, layout, known, Option.map_none, Option.bind_none, Option.isSome_none,
      Bool.false_eq_true, if_false]
  | some arrays =>
      simp only [inject, layout, known, Option.map_some, Option.bind_some]
      rw [cells_insert]
      by_cases array : (arrays.size? wireId).isSome = true
      · rw [if_pos array, CellView.replace_setCell _ _ array, replace_cells known]
      · have missing : arrays.get? wireId = none := by
          simpa only [SimulatedDevice.size?, Option.isSome_map, Bool.not_eq_true,
            Option.isSome_eq_false_iff, Option.isNone_iff_eq_none] using array
        have same : arrays.setCell wireId index config = arrays := by
          simp only [SimulatedDevice.setCell, missing]
        rw [if_neg array, same, replace_cells known]

end Simulator

namespace Coordinator

variable {device : DeviceId} {first second : Coordinator ShadowTable Simulator}

theorem happen_agree (agree : AgreeOn (fun place => place.device = device) first second)
    {event : Event} (here : event.concerns device = true) :
    AgreeOn (fun place => place.device = device) (first.happen event) (second.happen event) := by
  cases event with
  | request request => exact (serve_agree agree (of_decide_eq_true here)).2
  | failWrites fail =>
      refine ⟨agree.pipelines, ⟨rfl, agree.connection.failReads, agree.connection.layout⟩, ?_⟩
      intro place own
      cases place <;> exact agree.contents _ own
  | failReads fail =>
      refine ⟨agree.pipelines, ⟨agree.connection.failWrites, rfl, agree.connection.layout⟩, ?_⟩
      intro place own
      cases place <;> exact agree.contents _ own
  | inject target wireId index config =>
      refine ⟨agree.pipelines, ?_, ?_⟩
      · exact (first.connection.inject_alike ..).symm.trans
          (agree.connection.trans (second.connection.inject_alike ..))
      · intro place own
        have same := agree.contents place own
        cases place with
        | intent handle => exact same
        | shown handle => exact same
        | cell device otherId otherIndex =>
            change (first.connection.inject target wireId index config).cells device otherId
                otherIndex =
              (second.connection.inject target wireId index config).cells device otherId otherIndex
            have unchanged : first.connection.cells device otherId otherIndex =
              second.connection.cells device otherId otherIndex := same
            rw [Simulator.inject_local, Simulator.inject_local, agree.connection.layout]
            split
            · rw [CellView.set, CellView.set, unchanged]
            · exact unchanged

theorem happen_apart (coordinator : Coordinator ShadowTable Simulator) {event : Event}
    (elsewhere : event.concerns device = false) :
    AgreeOn (fun place => place.device = device) (coordinator.happen event) coordinator := by
  cases event with
  | request request => exact coordinator.serve_apart (of_decide_eq_false elsewhere)
  | failWrites fail => cases elsewhere
  | failReads fail => cases elsewhere
  | inject target wireId index config =>
      have other : target ≠ device := of_decide_eq_false elsewhere
      refine ⟨rfl, (coordinator.connection.inject_alike ..).symm, ?_⟩
      intro place own
      cases place with
      | intent handle => rfl
      | shown handle => rfl
      | cell holder otherId otherIndex =>
          change (coordinator.connection.inject target wireId index config).cells holder otherId
              otherIndex =
            coordinator.connection.cells holder otherId otherIndex
          rw [Simulator.inject_local]
          split
          · refine if_neg ?_
            rintro ⟨rfl, _⟩
            exact other own
          · rfl

/-- Without the events for other devices, a run goes on in the same way on a device. -/
theorem run_agree (agree : AgreeOn (fun place => place.device = device) first second)
    (events : List Event) :
    first.replies device events = second.replies device (events.filter (·.concerns device)) ∧
      AgreeOn (fun place => place.device = device) (first.run events)
        (second.run (events.filter (·.concerns device))) := by
  induction events generalizing first second with
  | nil => exact ⟨rfl, agree⟩
  | cons event events ih =>
      cases concerned : event.concerns device with
      -- Only the first run moves, and it leaves what the device holds.
      | false =>
          obtain ⟨later, ended⟩ := ih ((first.happen_apart concerned).trans agree)
          rw [List.filter_cons_of_neg (by simp [concerned]), ← later]
          refine ⟨?_, ended⟩
          cases event with
          | request request =>
              have other : request.device ≠ device := of_decide_eq_false concerned
              exact if_neg other
          | inject target wireId index config => rfl
          | failWrites fail => rfl
          | failReads fail => rfl
      -- Both runs move, and in the same way.
      | true =>
          obtain ⟨later, ended⟩ := ih (happen_agree agree concerned)
          rw [List.filter_cons_of_pos concerned]
          refine ⟨?_, ended⟩
          cases event with
          | request request =>
              have own : request.device = device := of_decide_eq_true concerned
              simp only [replies, if_pos own, later, (serve_agree agree own).1]
          | inject target wireId index config => exact later
          | failWrites fail => exact later
          | failReads fail => exact later

/-- Every request for a device is answered as if the events for other devices had not happened, and
the device, its intents and its shadow end as if they had not. -/
theorem devices_isolated (start : Coordinator ShadowTable Simulator) (events : List Event)
    (device : DeviceId) :
    let kept := events.filter (·.concerns device)
    start.replies device events = start.replies device kept ∧
      (∀ cell, (start.run events).intents.lookup ⟨device, cell⟩ =
        (start.run kept).intents.lookup ⟨device, cell⟩) ∧
      (∀ cell, ShadowStore.find? (start.run events).shadow ⟨device, cell⟩ =
        ShadowStore.find? (start.run kept).shadow ⟨device, cell⟩) ∧
      ∀ wireId index, (start.run events).connection.cell? device wireId index =
        (start.run kept).connection.cell? device wireId index := by
  intro kept
  obtain ⟨replies, agree⟩ := run_agree (.refl (fun place => place.device = device) start) events
  refine ⟨replies, ?_, ?_, ?_⟩
  · intro cell
    exact agree.contents (.intent ⟨device, cell⟩) rfl
  · intro cell
    exact agree.contents (.shown ⟨device, cell⟩) rfl
  · intro wireId index
    exact agree.contents (.cell device wireId index) rfl

end Coordinator

namespace Sample

def neighbor : DeviceId := ⟨"e", by decide⟩

/-- Two devices with the same pipeline. -/
def neighbors : Coordinator ShadowTable Simulator :=
  .new 1 (Std.TreeMap.insert pipelines neighbor pipeline) ∅
    (.ofDevices [(device, pipeline), (neighbor, pipeline)])

/-- The device is written and read. In between its neighbor is asked to clear the cell of the same
name and index, is changed behind its back, and is read and reset. -/
def crossing : List Event :=
  [.request (.process addition),
    .request (.process ⟨.remove, { addition.meter with device := neighbor }⟩),
    .inject neighbor 5 0 (some ⟨1, 2, 3, 4⟩),
    .request (.reconcile neighbor),
    .request (.reconcile device)]

end Sample

namespace Coordinator

theorem devices_isolated_crossing :
    Sample.crossing.filter (·.concerns Sample.device) =
        [.request (.process Sample.addition), .request (.reconcile Sample.device)] ∧
      Sample.neighbors.replies Sample.device Sample.crossing =
        [.processed (.ok ()),
          .reconciled ⟨[{ Sample.addition.meter with state := .added }], 1, 0, 0, 0⟩] ∧
      (Sample.neighbors.run Sample.crossing).connection.cell? Sample.device 5 0 =
        some Sample.numbers ∧
      (Sample.neighbors.run Sample.crossing).connection.entriesWritten = 3 := by
  obtain ⟨replies, _, _, cells⟩ := devices_isolated Sample.neighbors Sample.crossing Sample.device
  refine ⟨by decide +kernel, replies.trans ?_, (cells 5 0).trans ?_, by decide +kernel⟩
  · decide +kernel
  · decide +kernel

end Coordinator

end MeterSync
