import MeterSync.Proofs.Convergence
import MeterSync.Proofs.Repetition
import MeterSync.Proofs.Stores

/-!
# Reported meters

A meter is reported from what a device holds: its unit, its state and the order in which its bands
were once given are gone. It still resolves to what its intent records, and the shadow shows that
once the reconciliation is over. So whoever asks for it again is answered without a call.
-/

set_option autoImplicit false

namespace MeterSync

/-! ## Recorded configurations -/

/-- The configuration that is recorded for a cell, whoever asked for it. -/
def IntentStore.config? (intents : IntentStore) (handle : CellHandle) : Option CellConfig :=
  (intents.lookup handle).map (·.config)

theorem IntentStore.config?_settled {intents : IntentStore} {operation : Operation}
    {config : CellConfig} (keeps : operation.kind ≠ .remove)
    (known : intents.config? operation.meter.handle = some config) (handle : CellHandle) :
    (intents.settled operation config).config? handle = intents.config? handle := by
  rw [config?, lookup_settled]
  by_cases own : operation.meter.handle = handle
  · rw [if_pos own, if_neg keeps, ← own, known]
    rfl
  · rw [if_neg own]
    rfl

/-- The observed bands of a canonical intent resolve to it, since they are in order already. -/
theorem Intent.Canonical.resolve_observed {pipelines : PipelineTable} {handle : CellHandle}
    {intent : Intent} (canonical : intent.Canonical pipelines handle) :
    ∃ pipeline, pipelines.get? handle.device = some pipeline ∧
      pipeline.resolve (intent.config.observedMeter handle.device) = .ok intent.config := by
  obtain ⟨_, _, ⟨pipeline, found, array, member, named, inside⟩, ⟨committed, peak, bands⟩,
    regular⟩ := canonical
  rw [bands] at regular ⊢
  cases regular with
  | modify ordered committedFits peakFits =>
      have arrayFound := Pipeline.array?_eq_some_iff.mpr ⟨member, named⟩
      have units : ∀ unit ∈ (none : Option RateUnit), array.unit.rateUnit? = some unit := by simp
      have same : (⟨handle.cell, .modify committed peak⟩ : CellConfig) =
          .modify handle.cell committed peak := by
        rw [CellConfig.modify, Band.order_of_atMost ordered]
      exact ⟨pipeline, found, Pipeline.resolve_eq_ok_iff.mpr
        ⟨array, committed, peak, arrayFound, inside, units, rfl, committedFits, peakFits, same⟩⟩

namespace Coordinator

/-! ## Canonical runs -/

section Runs

variable {Shadow : Type} [ShadowStore Shadow]

/-- To follow events is one way for requests to take turns, with a connection that drifts. -/
theorem reached_run (start : Coordinator Shadow Simulator) (events : List Event) :
    ∃ routines, Reached start routines (start.run events) := by
  refine run_induction (motive := fun coordinator => ∃ routines, Reached start routines coordinator)
    ⟨[], .start⟩ ?_
  intro coordinator event _ reached
  obtain ⟨routines, reached⟩ := reached
  cases event with
  | request request =>
      have finished := (reached.request request).finish
      rw [Request.run_routine] at finished
      exact ⟨_, finished⟩
  | inject device wireId index config => exact ⟨routines, reached.drift _⟩
  | failWrites fail => exact ⟨routines, reached.drift _⟩
  | failReads fail => exact ⟨routines, reached.drift _⟩

theorem new_canonical {Connection : Type} (lockStripes : UInt64) (pipelines : PipelineTable)
    {shadow : Shadow} (blank : ∀ handle, ShadowStore.find? shadow handle = none)
    (connection : Connection) :
    (new lockStripes pipelines shadow connection).Canonical pipelines := by
  constructor
  · rfl
  · intro handle intent known
    rw [new, IntentStore.lookup_empty] at known
    cases known
  · intro handle config shown
    cases (blank handle).symm.trans shown

end Runs

/-! ## What is reported -/

section Reporting

variable {device : DeviceId}

theorem asIntended_iff {intents : IntentStore} {config : CellConfig} :
    asIntended (fun _ => false) intents device config = true ↔
      intents.config? (config.handle device) = some config := by
  rw [asIntended, Bool.not_false, Bool.true_and, beq_iff_eq, IntentStore.config?]

/-- What is as intended is not reset, so the shadow still shows it after the resets. -/
theorem shown_after_correct {seen : Coordinator ShadowTable Simulator} {pipeline : Pipeline}
    {entries : List Wire.Entry}
    (shown : ∀ config ∈ (Readout.ofEntries pipeline entries).configs,
      ShadowStore.find? seen.shadow (config.handle device) = some config)
    (unambiguous : Codec.Unambiguous pipeline entries) {config : CellConfig}
    (member : config ∈ (Readout.ofEntries pipeline entries).configs)
    (intended : asIntended (fun _ => false) seen.intents device config = true) :
    ShadowStore.find?
        (seen.correct pipeline (seen.corrections device (.ofEntries pipeline entries))).2.shadow
        (config.handle device) = some config := by
  obtain ⟨entry, entryMember, decoded⟩ := Readout.mem_configs.mp member
  have key := Codec.decodeKey_of_decode decoded
  have spared : .reset config.cell ∉ (seen.correct pipeline
      (seen.corrections device (.ofEntries pipeline entries))).1.accepted := by
    intro taken
    have reset := BatchOutcome.mem_accepted taken
    rw [correct_configs, reset_mem_corrections_iff shown unambiguous entryMember key, resets,
      Codec.decode?_eq_some_iff.mpr decoded, Option.all_some] at reset
    rw [asIntended_of_callsForReset reset] at intended
    cases intended
  have keeps : LawfulShadow.loses seen.shadow ⟨device, config.cell⟩ = false := rfl
  have onlyResets : ∀ reset ∈ (seen.corrections device (.ofEntries pipeline entries)).configs,
      reset = .reset reset.cell := fun _ => corrections_reset
  have stays := seen.find?_correct pipeline onlyResets keeps
  rw [if_neg spared] at stays
  exact stays.trans (shown config member)

theorem Reconciled.reported {before after : Coordinator ShadowTable Simulator} {report : Report}
    {meter : Meter} (ended : Reconciled before device report after)
    (kept : before.Kept fun _ => false) (reported : meter ∈ report.meters) :
    ∃ config, config.observedMeter device = meter ∧
      after.intents.config? meter.handle = some config ∧
      ShadowStore.find? after.shadow meter.handle = some config := by
  cases ended with
  | unknown _ => cases reported
  | unread _ _ => cases reported
  | @read pipeline entries connection _ seen _ _ answered readoutEq seenEq batchEq =>
      subst readoutEq batchEq
      have unambiguous := Simulator.read_unambiguous (congrArg Prod.fst answered)
      have shown := kept.shown_of_read connection device unambiguous
      rw [← seenEq] at shown
      have meters : seen.consistentMeters device (Readout.ofEntries pipeline entries).configs =
          ((Readout.ofEntries pipeline entries).configs.filter
            (asIntended (fun _ => false) seen.intents device)).map (·.observedMeter device) :=
        consistentMeters_eq shown
      rw [meters] at reported
      obtain ⟨config, asked, rfl⟩ := List.mem_map.mp reported
      obtain ⟨member, intended⟩ := List.mem_filter.mp asked
      refine ⟨config, rfl, ?_, shown_after_correct shown unambiguous member intended⟩
      rw [(seen.correct_frame pipeline _).2.1]
      exact asIntended_iff.mp intended

end Reporting

/-! ## Asking for what is reported -/

/-- Whatever requests, changes and failures came before, each meter that a reconciliation reports is
one of the device and resolves to what is recorded for its cell. To add or modify it succeeds
without a call, whether or not writes fail, and leaves the shadow and all recorded
configurations. -/
theorem reported_meters_stay (lockStripes : UInt64) (pipelines : PipelineTable)
    (simulator : Simulator) (events : List Event) {before : Coordinator ShadowTable Simulator}
    (reached : before = (new lockStripes pipelines (∅ : ShadowTable) simulator).run events)
    {device : DeviceId} {meter : Meter}
    (reported : meter ∈ (before.reconcile device).1.meters) :
    let after := (before.reconcile device).2
    meter.device = device ∧
      ∃ pipeline config, pipelines.get? device = some pipeline ∧
        after.intents.config? meter.handle = some config ∧
        pipeline.resolve meter = .ok config ∧
        ∀ kind ≠ .remove, ∀ fail,
          let failing := after.happen (.failWrites fail)
          let again := failing.process ⟨kind, meter⟩
          again.1 = .ok () ∧
            again.2.connection = failing.connection ∧
            again.2.shadow = after.shadow ∧
            ∀ handle, again.2.intents.config? handle = after.intents.config? handle := by
  intro after
  have kept : before.Kept fun _ => false := by
    rw [reached]
    exact run_induction (new_kept ..) fun _ _ _ held => held.happen
  have canonical : before.Canonical pipelines := by
    obtain ⟨routines, turned⟩ :=
      reached_run (new lockStripes pipelines (∅ : ShadowTable) simulator) events
    rw [reached]
    exact (turned.canonical (new_canonical _ _ CellTable.find?_empty _)).1
  have ended := before.reconciled device
  obtain ⟨samePipelines, sameIntents⟩ := ended.frame
  obtain ⟨config, rfl, recorded, shown⟩ := ended.reported kept reported
  obtain ⟨intent, known, rfl⟩ := Option.map_eq_some_iff.mp recorded
  rw [sameIntents] at known
  obtain ⟨pipeline, found, resolved⟩ := (canonical.intents _ _ known).resolve_observed
  refine ⟨rfl, pipeline, intent.config, found, recorded, resolved, ?_⟩
  intro kind keeps fail failing again
  have foundStill : failing.pipeline? device = some pipeline := by
    rw [pipeline?, happen_pipelines, samePipelines, canonical.table]
    exact found
  have requested : pipeline.requested ⟨kind, intent.config.observedMeter device⟩ =
      .ok intent.config := (pipeline.requested_of_keeps keeps).trans resolved
  obtain ⟨success, silent⟩ := (failing.processed _).of_shown foundStill requested shown
  have reachedAgain : again.2 = _ := silent
  rw [reachedAgain]
  exact ⟨success, rfl, rfl, IntentStore.config?_settled keeps recorded⟩

/-- Of the four cells of the device one is as intended, and it is asked for as it was reported. -/
theorem reported_meter_stays_drifted :
    let after := (Sample.drifted.reconcile Sample.device).2
    let meter := Meter.seen Sample.device Sample.handle.cell ⟨100, 10⟩ ⟨1000, 50⟩
    let failing := after.happen (.failWrites true)
    let again := failing.process ⟨.modify, meter⟩
    (Sample.drifted.reconcile Sample.device).1.meters = [meter] ∧
      Sample.wide.resolve meter = .ok (.modify Sample.handle.cell ⟨100, 10⟩ ⟨1000, 50⟩) ∧
      again.1 = .ok () ∧
      again.2.connection = failing.connection ∧
      again.2.shadow = after.shadow ∧
      ∀ handle, again.2.intents.config? handle = after.intents.config? handle := by
  intro after meter failing again
  have meters : (Sample.drifted.reconcile Sample.device).1.meters = [meter] := by decide +kernel
  have reported : meter ∈ (Sample.drifted.reconcile Sample.device).1.meters := by
    rw [meters]
    exact List.mem_singleton_self meter
  obtain ⟨_, _, _, _, _, _, stays⟩ := reported_meters_stay 1
    (Std.TreeMap.insert ∅ Sample.device Sample.wide) (.ofDevices [(Sample.device, Sample.wide)]) _
    (Eq.refl Sample.drifted) reported
  exact ⟨meters, by decide +kernel, stays .modify nofun true⟩

end Coordinator

end MeterSync
