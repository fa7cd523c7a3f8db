import Mathlib.Data.List.Permutation
import MeterSync.Client.Scripted
import MeterSync.Proofs.Confirmation

/-!
# Asking for the same again

An operation that succeeded leaves the shadow of its cell at what it asked for, and operations on
other cells do not touch it, whether they succeed or fail. So whatever asks for the same again is
answered from the shadow alone: no call is made, and only the counts of operations and of skipped
writes go up.
-/

set_option autoImplicit false

namespace MeterSync

/-! ## Operations that ask for the same -/

namespace Pipeline

/-- The meter leaves its unit open or gives the one in which its array counts. -/
def Admits (pipeline : Pipeline) (meter : Meter) : Prop :=
  ∀ array, pipeline.array? meter.cell.meter = some array →
    ∀ unit ∈ meter.unit, array.unit.rateUnit? = some unit

variable {pipeline : Pipeline} {config : CellConfig}

/-- Two meters for a cell resolve to the same if they have the same bands, in whichever order. -/
theorem resolve_eq_iff {meter other : Meter} (resolved : pipeline.resolve meter = .ok config)
    (same : other.cell = meter.cell) :
    pipeline.resolve other = .ok config ↔
      other.bands.Perm meter.bands ∧ pipeline.Admits other := by
  obtain ⟨array, first, second, found, inside, _, bands, firstFits, secondFits, rfl⟩ :=
    resolve_eq_ok_iff.mp resolved
  constructor
  · intro otherResolved
    obtain ⟨otherArray, otherFirst, otherSecond, otherFound, _, units, otherBands, _, _, equal⟩ :=
      resolve_eq_ok_iff.mp otherResolved
    constructor
    · have ordered : (first.order second).1 = (otherFirst.order otherSecond).1 ∧
          (first.order second).2 = (otherFirst.order otherSecond).2 := by
        simpa [CellConfig.modify] using congrArg CellConfig.state equal
      have permuted : [otherFirst, otherSecond].Perm [first, second] := by
        refine (Band.order_perm otherFirst otherSecond).symm.trans ?_
        rw [← ordered.1, ← ordered.2]
        exact Band.order_perm first second
      rw [bands, otherBands]
      exact permuted.map fun band => (⟨.uncolored, band.rate, some band.burst⟩ : MeterBand)
    · intro own ownFound
      cases otherFound.symm.trans ownFound
      exact units
  · rintro ⟨permuted, admitted⟩
    rw [bands] at permuted
    have units := admitted array (same ▸ found)
    rw [resolve_eq_ok_iff, same]
    obtain kept | swapped := List.perm_pair.mp permuted
    · exact ⟨array, first, second, found, inside, units, kept, firstFits, secondFits, rfl⟩
    · refine ⟨array, second, first, found, inside, units, swapped, secondFits, firstFits, ?_⟩
      rw [CellConfig.modify, CellConfig.modify, Band.order_comm]

end Pipeline

/-- On this pipeline the operation asks for what another one for the same cell asks for: both
remove, or neither does and the bands are the same, in whichever order. -/
def Operation.Repeats (pipeline : Pipeline) (again operation : Operation) : Prop :=
  if operation.kind = .remove then again.kind = .remove
  else again.kind ≠ .remove ∧ again.meter.bands.Perm operation.meter.bands ∧
    pipeline.Admits again.meter

theorem Pipeline.requested_of_keeps (pipeline : Pipeline) {operation : Operation}
    (keeps : operation.kind ≠ .remove) :
    pipeline.requested operation = pipeline.resolve operation.meter := by
  rw [Pipeline.requested]
  split
  · exact absurd ‹_› keeps
  · rfl
  · rfl

theorem Pipeline.requested_eq_iff {pipeline : Pipeline} {operation again : Operation}
    {config : CellConfig} (requested : pipeline.requested operation = .ok config)
    (same : again.meter.cell = operation.meter.cell) :
    pipeline.requested again = .ok config ↔ again.Repeats pipeline operation := by
  have removal {other : Operation} (removes : other.kind = .remove) :
      pipeline.requested other = .ok (.reset other.meter.cell) := by
    rw [Pipeline.requested, removes]
  rw [Operation.Repeats]
  by_cases removes : operation.kind = .remove
  · rw [if_pos removes]
    cases requested.symm.trans (removal removes)
    constructor
    · intro againRequested
      by_contra keeps
      obtain ⟨_, _, bands⟩ := Pipeline.requested_modify againRequested keeps
      cases bands
    · intro againRemoves
      rw [removal againRemoves, same]
  · rw [if_neg removes]
    rw [pipeline.requested_of_keeps removes] at requested
    by_cases againRemoves : again.kind = .remove
    · obtain ⟨committed, peak, rfl, _⟩ := Pipeline.resolve_modify requested
      simp [removal againRemoves, againRemoves, CellConfig.reset]
    · rw [pipeline.requested_of_keeps againRemoves, Pipeline.resolve_eq_iff requested same]
      simp only [ne_eq, againRemoves, not_false_eq_true, true_and]

/-! ## What stays shown -/

namespace Coordinator

section Shown

variable {Shadow Connection : Type} [ShadowStore Shadow] [LawfulShadow Shadow] [Client Connection]
  {coordinator after : Coordinator Shadow Connection} {operation : Operation}
  {result : Except OperationError Unit}

/-- After a success the cell shows what was asked for, if the shadow can show it. -/
theorem Processed.shows (ended : Processed coordinator operation (.ok ()) after)
    (kept : LawfulShadow.loses coordinator.shadow operation.meter.handle = false) :
    ∃ pipeline config, coordinator.pipeline? operation.meter.device = some pipeline ∧
      pipeline.requested operation = .ok config ∧
      ShadowStore.find? after.shadow operation.meter.handle = some config := by
  cases ended with
  | skipped found requested shown => exact ⟨_, _, found, requested, shown⟩
  | written found requested _ _ _ =>
      refine ⟨_, _, found, requested, ?_⟩
      rw [LawfulShadow.find?_put, if_pos ⟨rfl, kept⟩]

theorem Processed.shows_elsewhere (ended : Processed coordinator operation result after)
    {handle : CellHandle} (elsewhere : operation.meter.handle ≠ handle) :
    ShadowStore.find? after.shadow handle = ShadowStore.find? coordinator.shadow handle := by
  cases ended with
  | unknown _ => rfl
  | unresolved _ _ => rfl
  | skipped _ _ _ => rfl
  | refused _ _ _ _ _ _ => rfl
  | written _ _ _ _ _ =>
      rw [LawfulShadow.find?_put, if_neg fun both => elsewhere both.1]

theorem serveAll_elsewhere {operations : List Operation} {handle : CellHandle}
    (elsewhere : ∀ operation ∈ operations, operation.meter.handle ≠ handle)
    (coordinator : Coordinator Shadow Connection) :
    ShadowStore.find? (coordinator.serveAll (operations.map .process)).shadow handle =
      ShadowStore.find? coordinator.shadow handle := by
  induction operations generalizing coordinator with
  | nil => rfl
  | cons operation operations ih =>
      obtain ⟨here, later⟩ := List.forall_mem_cons.mp elsewhere
      exact (ih later (coordinator.process operation).2).trans
        ((coordinator.processed operation).shows_elsewhere here)

omit [LawfulShadow Shadow] in
theorem Processed.of_shown (ended : Processed coordinator operation result after)
    {pipeline : Pipeline} (found : coordinator.pipeline? operation.meter.device = some pipeline)
    {config : CellConfig} (requested : pipeline.requested operation = .ok config)
    (shown : ShadowStore.find? coordinator.shadow operation.meter.handle = some config) :
    result = .ok () ∧
      after = coordinator.settled operation config fun stats =>
        { stats with writesSkipped := stats.writesSkipped + 1 } := by
  cases ended with
  | unknown missing =>
      rw [found] at missing
      cases missing
  | unresolved ownFound unresolved =>
      cases found.symm.trans ownFound
      rw [requested] at unresolved
      cases unresolved
  | skipped ownFound ownRequested _ =>
      cases found.symm.trans ownFound
      cases requested.symm.trans ownRequested
      exact ⟨rfl, rfl⟩
  | refused ownFound ownRequested hidden _ _ _ =>
      cases found.symm.trans ownFound
      cases requested.symm.trans ownRequested
      exact absurd shown hidden
  | written ownFound ownRequested hidden _ _ =>
      cases found.symm.trans ownFound
      cases requested.symm.trans ownRequested
      exact absurd shown hidden

end Shown

/-- Once an operation succeeded, and whatever was done for other cells since, every operation that
asks for the same of its cell succeeds without a call. It settles the intent again, and otherwise it
leaves nothing but its own count and that of skipped writes. It asks for the same if both remove, or
if neither does and it has the same bands, in either order. -/
theorem repetition_is_silent {Connection : Type} [Client Connection]
    (before : Coordinator ShadowTable (RecordedClient Connection)) {operation : Operation}
    (applied : (before.process operation).1 = .ok ()) {others : List Operation}
    (elsewhere : ∀ other ∈ others, other.meter.handle ≠ operation.meter.handle) :
    let reached := (before.process operation).2.serveAll (others.map .process)
    ∃ pipeline config,
      before.pipeline? operation.meter.device = some pipeline ∧
      pipeline.requested operation = .ok config ∧
      ∀ again : Operation, again.meter.handle = operation.meter.handle →
        (pipeline.requested again = .ok config ↔ again.Repeats pipeline operation) ∧
        (pipeline.requested again = .ok config →
          reached.process again =
            (.ok (),
              { reached with
                intents := reached.intents.settled again config
                stats :=
                  { reached.stats with
                    operations := reached.stats.operations + 1
                    writesSkipped := reached.stats.writesSkipped + 1 } })) := by
  intro reached
  have ended := before.processed operation
  rw [applied] at ended
  obtain ⟨pipeline, config, found, requested, shown⟩ := ended.shows rfl
  refine ⟨pipeline, config, found, requested, ?_⟩
  intro again same
  refine ⟨Pipeline.requested_eq_iff requested (congrArg CellHandle.cell same), ?_⟩
  intro againRequested
  have stillShown : ShadowStore.find? reached.shadow again.meter.handle = some config := by
    rw [same]
    exact (serveAll_elsewhere elsewhere _).trans shown
  have samePipelines : reached.pipelines = before.pipelines :=
    (serveAll_pipelines _ _).trans ended.pipelines
  have sameDevice : again.meter.device = operation.meter.device := congrArg CellHandle.device same
  have againFound : reached.pipeline? again.meter.device = some pipeline := by
    rw [pipeline?_congr samePipelines, sameDevice]
    exact found
  obtain ⟨success, after⟩ :=
    (reached.processed again).of_shown againFound againRequested stillShown
  exact Prod.ext success after

/-- The addition with its bands exchanged, as a change, in the unit of the array. -/
def exchangedModification : Operation where
  kind := .modify
  meter :=
    { Sample.addition.meter with
      bands := Sample.addition.meter.bands.reverse
      unit := some .kilobytes
      state := .added }

/-- A client that takes the first write and cannot reach any device after it. -/
def lostClient : ScriptedClient where
  simulator := { Simulator.ofDevices [(Sample.device, Sample.pipeline)] with failWrites := true }
  sent := []
  writeAnswers := [.ok [none]]
  readAnswers := []

def lostStart : Coordinator ShadowTable (RecordedClient ScriptedClient) :=
  .new 1 Sample.pipelines ∅ ⟨lostClient, []⟩

/-- The removal of a cell that the array does not have. -/
def otherRemoval : Operation where
  kind := .remove
  meter := { Sample.addition.meter with cell := ⟨Sample.meter, 9⟩ }

theorem exchanged_modification_silent :
    let reached := (lostStart.process Sample.addition).2.serveAll [.process otherRemoval]
    (lostStart.process Sample.addition).1 = .ok () ∧
      reached.stats = ⟨2, 2, 0, 1, 0, 0, 0, 0⟩ ∧
      exchangedModification.Repeats Sample.pipeline Sample.addition ∧
      (reached.process exchangedModification).1 = .ok () ∧
      (reached.process exchangedModification).2.connection = reached.connection ∧
      (reached.process exchangedModification).2.shadow = reached.shadow ∧
      (reached.process exchangedModification).2.stats = ⟨3, 2, 1, 1, 0, 0, 0, 0⟩ := by
  intro reached
  have applied : (lostStart.process Sample.addition).1 = .ok () := by decide +kernel
  have counted : reached.stats = ⟨2, 2, 0, 1, 0, 0, 0, 0⟩ := by decide +kernel
  have elsewhere : ∀ other ∈ [otherRemoval], other.meter.handle ≠ Sample.addition.meter.handle := by
    decide
  have foundSample : lostStart.pipeline? Sample.addition.meter.device = some Sample.pipeline := by
    decide +kernel
  obtain ⟨pipeline, config, found, requested, silent⟩ :=
    repetition_is_silent lostStart applied elsewhere
  cases foundSample.symm.trans found
  have resolved : config = .modify Sample.handle.cell ⟨100, 10⟩ ⟨1000, 50⟩ := by
    apply Except.ok.inj
    rw [← requested]
    decide +kernel
  obtain ⟨repeats, quiet⟩ := silent exchangedModification rfl
  have same : Sample.pipeline.requested exchangedModification = .ok config := by
    rw [resolved]
    decide +kernel
  have ended : reached.process exchangedModification = _ := quiet same
  rw [ended, counted]
  exact ⟨applied, rfl, repeats.mp same, rfl, rfl, rfl, rfl⟩

end Coordinator

end MeterSync
