import MeterSync.Client.Submission
import MeterSync.Proofs.Codec.Keys
import MeterSync.Proofs.Simulator

/-!
# Submitted batches

The outcome of a batch has one line for each configuration, in order, whatever the client answers.
On simulated devices the configurations that were taken are exactly those whose entries changed a
cell, so what was taken and what the cells hold can be followed together, entry by entry.
-/

set_option autoImplicit false

namespace MeterSync

theorem alignOutcomes_configs (configs : List CellConfig) (statuses : List WriteStatus) :
    (alignOutcomes configs statuses).map (·.config) = configs := by
  induction configs generalizing statuses with
  | nil => rfl
  | cons config configs ih => cases statuses <;> simp [alignOutcomes, ih]

theorem Codec.encodeAll_eq_ok_iff {pipeline : Pipeline} {configs : List CellConfig}
    {entries : List Wire.Entry} :
    Codec.encodeAll pipeline configs = .ok entries ↔
      configs.map (Codec.encode pipeline) = entries.map .ok := by
  induction configs generalizing entries with
  | nil => cases entries <;> simp [encodeAll]
  | cons config configs ih =>
      simp only [encodeAll, except_bind_eq_ok_iff, ih, List.map_cons, pure, Except.pure,
        Except.ok.injEq]
      constructor
      · intro encoded
        rcases encoded with ⟨entry, encoded, rest, restEncoded, rfl⟩
        rw [encoded, restEncoded, List.map_cons]
      · intro encoded
        cases entries with
        | nil => cases encoded
        | cons entry rest =>
            obtain ⟨here, later⟩ := List.cons.inj encoded
            exact ⟨entry, here, rest, later, rfl⟩

theorem Codec.exists_encode_of_encodeAll {pipeline : Pipeline} {configs : List CellConfig}
    {entries : List Wire.Entry} (encoded : Codec.encodeAll pipeline configs = .ok entries)
    {config : CellConfig} (member : config ∈ configs) :
    ∃ entry, Codec.encode pipeline config = .ok entry := by
  have image : Codec.encode pipeline config ∈ configs.map (Codec.encode pipeline) :=
    List.mem_map_of_mem member
  rw [encodeAll_eq_ok_iff.mp encoded] at image
  obtain ⟨entry, _, same⟩ := List.mem_map.mp image
  exact ⟨entry, same.symm⟩

namespace BatchOutcome

theorem accepted_cons (device : DeviceId) (config : CellConfig) (refusal : Option String)
    (outcomes : List WriteOutcome) :
    accepted ⟨device, ⟨config, refusal⟩ :: outcomes⟩ =
      if refusal = none then config :: accepted ⟨device, outcomes⟩
      else accepted ⟨device, outcomes⟩ := by
  cases refusal <;> simp [accepted, WriteOutcome.accepted]

theorem accepted_add_failed (outcome : BatchOutcome) :
    outcome.accepted.length + outcome.failed.length = outcome.outcomes.length := by
  rw [accepted, List.length_map, failed, ← List.countP_eq_length_filter,
    ← List.countP_eq_length_filter, List.length_eq_countP_add_countP WriteOutcome.accepted]
  simp

theorem mem_accepted {outcome : BatchOutcome} {config : CellConfig}
    (taken : config ∈ outcome.accepted) : config ∈ outcome.outcomes.map (·.config) := by
  obtain ⟨each, kept, rfl⟩ := List.mem_map.mp taken
  exact List.mem_map_of_mem (List.mem_filter.mp kept).1

/-- If nothing failed, everything was taken. -/
theorem accepted_of_failed_eq_nil {outcome : BatchOutcome} (clean : outcome.failed.length = 0) :
    outcome.accepted = outcome.outcomes.map (·.config) := by
  rw [accepted, List.filter_eq_self.mpr]
  intro each member
  cases taken : each.accepted with
  | true => rfl
  | false =>
      have failed : each ∈ outcome.failed := List.mem_filter.mpr ⟨member, by simp [taken]⟩
      rw [List.eq_nil_of_length_eq_zero clean] at failed
      cases failed

/-- No refusal is given exactly when everything was taken. -/
theorem refusals_eq_nil_iff {outcome : BatchOutcome} :
    outcome.refusals = [] ↔ outcome.accepted = outcome.outcomes.map (·.config) := by
  obtain ⟨device, outcomes⟩ := outcome
  induction outcomes with
  | nil => simp [refusals, accepted]
  | cons each outcomes ih =>
      obtain ⟨config, refusal⟩ := each
      cases refusal with
      | none => simpa [refusals, accepted_cons] using ih
      | some reason =>
          have partition : (accepted ⟨device, outcomes⟩).length + _ = outcomes.length :=
            accepted_add_failed ⟨device, outcomes⟩
          have fewer : accepted ⟨device, outcomes⟩ ≠ config :: outcomes.map (·.config) := by
            intro all
            have lengths := congrArg List.length all
            rw [List.length_cons, List.length_map] at lengths
            omega
          simpa [refusals, accepted_cons] using fewer

/-- A batch of one configuration that is refused takes nothing. -/
theorem accepted_of_singleton {outcome : BatchOutcome} {config : CellConfig}
    (single : outcome.outcomes.map (·.config) = [config]) (refused : outcome.refusals ≠ []) :
    outcome.accepted = [] := by
  obtain ⟨device, outcomes⟩ := outcome
  obtain ⟨⟨_, refusal⟩, rfl, rfl⟩ := List.map_eq_singleton_iff.mp single
  cases refusal with
  | none => exact absurd rfl refused
  | some reason => rfl

end BatchOutcome

namespace WriteBatch

@[simp] theorem accepted_allFailed (batch : WriteBatch) (reason : String) :
    (batch.allFailed reason).accepted = [] := by
  simp [allFailed, BatchOutcome.accepted, WriteOutcome.accepted]

/-- The statuses that count are as many as there are configurations. -/
theorem accepted_answered_length (batch : WriteBatch) (statuses : List WriteStatus) :
    (batch.answered statuses).accepted.length =
      (statuses.take batch.configs.length).count none := by
  obtain ⟨device, configs⟩ := batch
  rw [answered]
  induction configs generalizing statuses with
  | nil => simp [alignOutcomes, BatchOutcome.accepted]
  | cons config configs ih =>
      cases statuses with
      | nil => simpa [alignOutcomes, BatchOutcome.accepted_cons] using ih []
      | cons status statuses =>
          cases status with
          | none => simp [alignOutcomes, BatchOutcome.accepted_cons, ih statuses]
          | some reason => simp [alignOutcomes, BatchOutcome.accepted_cons, ih statuses]

/-- The outcome of a batch that was sent and answered. -/
def outcome (batch : WriteBatch) : Except ClientError (List WriteStatus) → BatchOutcome
  | .error error => batch.allFailed error.message
  | .ok statuses => batch.answered statuses

theorem outcome_configs (batch : WriteBatch) (answer : Except ClientError (List WriteStatus)) :
    (batch.outcome answer).outcomes.map (·.config) = batch.configs := by
  cases answer with
  | error error => simp [outcome, allFailed, Function.comp_def]
  | ok statuses => exact alignOutcomes_configs batch.configs statuses

end WriteBatch

namespace Client

variable {Connection : Type} [Client Connection]

theorem submit_of_encodeAll {pipeline : Pipeline} {batch : WriteBatch}
    {entries : List Wire.Entry} (encoded : Codec.encodeAll pipeline batch.configs = .ok entries)
    (connection : Connection) :
    submit pipeline batch connection =
      (batch.outcome (Client.write connection batch.device entries).1,
        (Client.write connection batch.device entries).2) := by
  simp only [submit, encoded, WriteBatch.outcome]
  cases Client.write connection batch.device entries with
  | mk answer connection => cases answer <;> rfl

@[simp] theorem submit_device (pipeline : Pipeline) (batch : WriteBatch)
    (connection : Connection) : (submit pipeline batch connection).1.device = batch.device := by
  cases encoded : Codec.encodeAll pipeline batch.configs with
  | error error => simp only [submit, encoded, WriteBatch.allFailed]
  | ok entries =>
      rw [submit_of_encodeAll encoded]
      cases (Client.write connection batch.device entries).1 <;> rfl

@[simp] theorem submit_configs (pipeline : Pipeline) (batch : WriteBatch)
    (connection : Connection) :
    (submit pipeline batch connection).1.outcomes.map (·.config) = batch.configs := by
  cases encoded : Codec.encodeAll pipeline batch.configs with
  | error error => simp [submit, encoded, WriteBatch.allFailed, Function.comp_def]
  | ok entries =>
      rw [submit_of_encodeAll encoded]
      exact batch.outcome_configs _

/-! ## Simulated devices -/

private theorem writeEntries_induction {pipeline : Pipeline} {device : DeviceId}
    {batched : List CellConfig} {cells : CellView}
    {motive : List CellConfig → CellView → Prop}
    (step : ∀ taken cells config entry index, config ∈ batched →
      Codec.encode pipeline config = .ok entry → entry.index = some index → motive taken cells →
        motive (taken ++ [config]) (cells.set device entry.meterId index entry.config))
    {configs : List CellConfig} {entries : List Wire.Entry}
    (encoded : configs.map (Codec.encode pipeline) = entries.map .ok)
    (included : ∀ config ∈ configs, config ∈ batched) {arrays : SimulatedDevice}
    {taken : List CellConfig} (start : motive taken (cells.replace device arrays.cell?)) :
    motive (taken ++ BatchOutcome.accepted
        ⟨device, alignOutcomes configs (arrays.writeEntries entries).1⟩)
      (cells.replace device (arrays.writeEntries entries).2.cell?) := by
  induction configs generalizing entries arrays taken with
  | nil =>
      cases entries with
      | nil =>
          simpa [alignOutcomes, BatchOutcome.accepted, SimulatedDevice.writeEntries] using start
      | cons entry entries => cases encoded
  | cons config configs ih =>
      cases entries with
      | nil => cases encoded
      | cons entry entries =>
          obtain ⟨here, later⟩ := List.cons.inj encoded
          obtain ⟨member, rest⟩ := List.forall_mem_cons.mp included
          simp only [SimulatedDevice.writeEntries, alignOutcomes, BatchOutcome.accepted_cons]
          obtain ⟨reason, refused⟩ | ⟨index, given, known, written⟩ :=
            arrays.writeEntry_cases entry
          · rw [refused]
            exact ih later rest start
          · rw [written]
            have moved := step taken _ config entry index member here given start
            rw [← CellView.replace_setCell cells device known] at moved
            simpa using ih later rest moved

/-- Follows a batch on simulated devices: what holds of nothing taken and the cells as they are,
and goes on to hold with each further configuration whose entry changes its cell, holds in the end
of what was taken and what the cells hold. -/
theorem submit_induction {pipeline : Pipeline} {batch : WriteBatch} {simulator : Simulator}
    {motive : List CellConfig → CellView → Prop} (start : motive [] simulator.cells)
    (step : ∀ taken cells config entry index, config ∈ batch.configs →
      Codec.encode pipeline config = .ok entry → entry.index = some index → motive taken cells →
        motive (taken ++ [config]) (cells.set batch.device entry.meterId index entry.config)) :
    motive (submit pipeline batch simulator).1.accepted
      (submit pipeline batch simulator).2.cells := by
  cases encoded : Codec.encodeAll pipeline batch.configs with
  | error error =>
      simpa only [submit, encoded, WriteBatch.accepted_allFailed] using start
  | ok entries =>
      rw [submit_of_encodeAll encoded]
      obtain ⟨error, answered, same⟩ | ⟨arrays, known, answered, written⟩ :=
        simulator.write_cases batch.device entries
      · rw [show (Client.write simulator batch.device entries).1 = _ from answered,
          show (Client.write simulator batch.device entries).2.cells = _ from same,
          WriteBatch.outcome, WriteBatch.accepted_allFailed]
        exact start
      · rw [show (Client.write simulator batch.device entries).1 = _ from answered,
          show (Client.write simulator batch.device entries).2.cells = _ from written]
        have begun : motive [] (simulator.cells.replace batch.device arrays.cell?) := by
          rw [Simulator.replace_cells known]
          exact start
        exact writeEntries_induction step (Codec.encodeAll_eq_ok_iff.mp encoded)
          (fun _ member => member) begun

end Client

end MeterSync
