import MeterSync.Client.Recorded
import MeterSync.Client.Scripted
import MeterSync.Shadow
import MeterSync.Proofs.Coordinator.Run

/-!
# Batches beside their outcomes

What becomes of a batch is told place by place, whatever the client answers. A configuration is
taken if the status at its own place is good, and a place without a status is a refusal. If some
configuration does not encode, no call is made, and the first one that does not is the refusal of
all.
-/

set_option autoImplicit false

namespace MeterSync

/-! ## Encoding a batch -/

/-- The error of the first configuration that does not encode. -/
def Codec.FailsFirst (pipeline : Pipeline) (configs : List CellConfig) (error : CodecError) :
    Prop :=
  ∃ earlier config later, configs = earlier ++ config :: later ∧
    (∀ other ∈ earlier, ∃ entry, Codec.encode pipeline other = .ok entry) ∧
    Codec.encode pipeline config = .error error

namespace Codec

variable {pipeline : Pipeline} {config : CellConfig} {configs : List CellConfig}
  {error : CodecError}

theorem FailsFirst.cons {entry : Wire.Entry} (encoded : encode pipeline config = .ok entry)
    (fails : FailsFirst pipeline configs error) :
    FailsFirst pipeline (config :: configs) error := by
  obtain ⟨earlier, failing, later, rfl, encodable, failed⟩ := fails
  exact ⟨config :: earlier, failing, later, rfl,
    List.forall_mem_cons.mpr ⟨⟨entry, encoded⟩, encodable⟩, failed⟩

theorem failsFirst_of_encodeAll (unsent : encodeAll pipeline configs = .error error) :
    FailsFirst pipeline configs error := by
  induction configs with
  | nil => cases unsent
  | cons config configs ih =>
      cases encoded : encode pipeline config with
      | error first =>
          rw [encodeAll, encoded] at unsent
          cases unsent
          exact ⟨[], config, configs, rfl, List.forall_mem_nil _, encoded⟩
      | ok entry =>
          cases rest : encodeAll pipeline configs with
          | ok entries =>
              rw [encodeAll, encoded, rest] at unsent
              cases unsent
          | error later =>
              rw [encodeAll, encoded, rest] at unsent
              cases unsent
              exact (ih rest).cons encoded

theorem FailsFirst.not_encodes (fails : FailsFirst pipeline configs error) :
    ∃ config ∈ configs, encode pipeline config = .error error := by
  obtain ⟨earlier, config, later, rfl, _, failed⟩ := fails
  exact ⟨config, List.mem_append_right _ List.mem_cons_self, failed⟩

/-- A batch is encoded as a whole exactly if each of its configurations is. -/
theorem isOk_encodeAll_iff :
    (∃ entries, encodeAll pipeline configs = .ok entries) ↔
      ∀ config ∈ configs, ∃ entry, encode pipeline config = .ok entry := by
  constructor
  · intro encoded
    obtain ⟨entries, encoded⟩ := encoded
    exact fun config member => exists_encode_of_encodeAll encoded member
  · intro each
    cases encoded : encodeAll pipeline configs with
    | ok entries => exact ⟨entries, rfl⟩
    | error error =>
        obtain ⟨config, member, failed⟩ := (failsFirst_of_encodeAll encoded).not_encodes
        obtain ⟨entry, encodes⟩ := each config member
        rw [failed] at encodes
        cases encodes

end Codec

/-! ## Outcomes by place -/

/-- Why the configuration at a place of a batch is refused, by the answer to the write, and nothing
if it is taken. Statuses behind the last configuration are not looked at. -/
def Client.refusalAt (answer : Except ClientError (List WriteStatus)) (place : Nat) :
    Option String :=
  match answer with
  | .error error => some error.message
  | .ok statuses => statuses[place]?.getD (some "no status returned for entity")

/-- The outcome of a batch under the refusals of its places: a line for each configuration, in
order, and those that are taken and those that fail make up the batch. -/
structure WriteBatch.Answered (batch : WriteBatch) (refusal : Nat → Option String)
    (outcome : BatchOutcome) : Prop where
  device : outcome.device = batch.device
  lines : outcome.outcomes = batch.configs.mapIdx fun place config => ⟨config, refusal place⟩
  taken : outcome.accepted =
    (batch.configs.zipIdx.filter fun placed => (refusal placed.2).isNone).map (·.1)
  failed : outcome.failed =
    (batch.configs.zipIdx.filter fun placed => (refusal placed.2).isSome).map fun placed =>
      ⟨placed.1, refusal placed.2⟩
  partition : (outcome.accepted ++ outcome.failed.map (·.config)).Perm batch.configs

theorem BatchOutcome.accepted_perm_failed (outcome : BatchOutcome) :
    (outcome.accepted ++ outcome.failed.map (·.config)).Perm
      (outcome.outcomes.map (·.config)) := by
  rw [accepted, failed, ← List.map_append]
  exact (List.filter_append_perm _ outcome.outcomes).map _

theorem alignOutcomes_eq_mapIdx (configs : List CellConfig) (statuses : List WriteStatus) :
    alignOutcomes configs statuses =
      configs.mapIdx fun place config => ⟨config, Client.refusalAt (.ok statuses) place⟩ := by
  induction configs generalizing statuses with
  | nil => rfl
  | cons config configs ih =>
      rw [List.mapIdx_cons]
      cases statuses with
      | nil => rw [alignOutcomes, ih]; rfl
      | cons status statuses => rw [alignOutcomes, ih]; rfl

namespace WriteBatch

theorem Answered.of_lines {batch : WriteBatch} {refusal : Nat → Option String}
    {outcome : BatchOutcome} (device : outcome.device = batch.device)
    (lines : outcome.outcomes = batch.configs.mapIdx fun place config => ⟨config, refusal place⟩) :
    batch.Answered refusal outcome := by
  have paired : outcome.outcomes =
      batch.configs.zipIdx.map fun placed => ⟨placed.1, refusal placed.2⟩ := by
    rw [lines, List.mapIdx_eq_zipIdx_map]
  have configs : outcome.outcomes.map (·.config) = batch.configs := by
    rw [paired, List.map_map]
    exact List.zipIdx_map_fst 0 batch.configs
  refine ⟨device, lines, ?_, ?_, ?_⟩
  · rw [BatchOutcome.accepted, paired, List.filter_map, List.map_map]
    rfl
  · rw [BatchOutcome.failed, paired, List.filter_map]
    simp only [Function.comp_def, WriteOutcome.accepted, Option.not_isNone]
  · rw [← configs]
    exact outcome.accepted_perm_failed

theorem answered_allFailed (batch : WriteBatch) (reason : String) :
    batch.Answered (fun _ => some reason) (batch.allFailed reason) := by
  apply Answered.of_lines rfl
  exact (List.mapIdx_eq_iff.mpr fun _ => List.getElem?_map).symm

theorem answered_outcome (batch : WriteBatch) (answer : Except ClientError (List WriteStatus)) :
    batch.Answered (Client.refusalAt answer) (batch.outcome answer) := by
  cases answer with
  | error error => exact batch.answered_allFailed error.message
  | ok statuses => exact .of_lines rfl (alignOutcomes_eq_mapIdx batch.configs statuses)

end WriteBatch

/-- If nothing failed, to record what was taken is to record the batch. -/
theorem ShadowStore.recordOutcome_of_failed_eq_nil {Shadow : Type} [ShadowStore Shadow]
    {batch : WriteBatch} {outcome : BatchOutcome} (device : outcome.device = batch.device)
    (configs : outcome.outcomes.map (·.config) = batch.configs) (clean : outcome.failed = [])
    (shadow : Shadow) : recordOutcome shadow outcome = recordBatch shadow batch := by
  have all := BatchOutcome.accepted_of_failed_eq_nil (congrArg List.length clean)
  rw [recordOutcome, recordBatch, all, configs, device]

namespace Client

/-- If some configuration of a batch does not encode, no call is made and the first such error fails
them all. Otherwise exactly one call is made, with the entries in order; an error of the call fails
all configurations, and else each of them has the status of its own place, or fails for want of
one. If nothing failed, a shadow that records the outcome is the shadow that records the batch. -/
theorem submissions_answered_by_place {Shadow Connection : Type} [ShadowStore Shadow]
    [Client Connection] (pipeline : Pipeline) (batch : WriteBatch)
    (client : RecordedClient Connection) (shadow : Shadow) :
    let submitted := submit pipeline batch client
    ((∃ config ∈ batch.configs, ∃ error, Codec.encode pipeline config = .error error) →
      submitted.2 = client ∧
        ∃ error, Codec.FailsFirst pipeline batch.configs error ∧
          batch.Answered (fun _ => some error.message) submitted.1) ∧
      ((∀ config ∈ batch.configs, ∃ entry, Codec.encode pipeline config = .ok entry) →
        ∃ entries answer connection,
          batch.configs.map (Codec.encode pipeline) = entries.map .ok ∧
          Client.write client.connection batch.device entries = (answer, connection) ∧
          submitted.2 = ⟨connection, client.calls ++ [.write batch.device entries answer]⟩ ∧
          batch.Answered (refusalAt answer) submitted.1) ∧
      (submitted.1.failed = [] →
        ShadowStore.recordOutcome shadow submitted.1 = ShadowStore.recordBatch shadow batch) := by
  intro submitted
  refine ⟨?_, ?_, ?_⟩
  · intro unencoded
    obtain ⟨config, member, error, failed⟩ := unencoded
    cases encoded : Codec.encodeAll pipeline batch.configs with
    | ok entries =>
        obtain ⟨entry, encodes⟩ := Codec.exists_encode_of_encodeAll encoded member
        rw [failed] at encodes
        cases encodes
    | error first =>
        have unsent : submitted = (batch.allFailed first.message, client) := by
          simp only [submitted, submit, encoded]
        rw [unsent]
        exact ⟨rfl, first, Codec.failsFirst_of_encodeAll encoded,
          batch.answered_allFailed first.message⟩
  · intro each
    obtain ⟨entries, encoded⟩ := Codec.isOk_encodeAll_iff.mpr each
    have sent : submitted = _ := submit_of_encodeAll encoded client
    rw [sent]
    exact ⟨entries, _, _, Codec.encodeAll_eq_ok_iff.mp encoded, rfl, rfl,
      batch.answered_outcome _⟩
  · intro clean
    exact ShadowStore.recordOutcome_of_failed_eq_nil (submit_device pipeline batch client)
      (submit_configs pipeline batch client) clean shadow

/-- A client that takes the first of the configurations, refuses the second and says no more, and
answers its second call with more statuses than it was asked for. -/
def terseClient : RecordedClient ScriptedClient where
  connection :=
    { simulator := .ofDevices [(Sample.device, Sample.pipeline)]
      sent := []
      writeAnswers := [.ok [none, some "busy"], .ok [none, none, none, some "busy"]]
      readAnswers := [] }
  calls := []

def terseBatch : WriteBatch where
  device := Sample.device
  configs :=
    [.reset Sample.handle.cell, .modify Sample.handle.cell ⟨1000, 50⟩ ⟨100, 10⟩,
      .reset Sample.handle.cell]

/-- Both of its rates are too large for the wire. -/
def oversized : CellConfig :=
  .modify Sample.handle.cell ⟨0x8000000000000000, 1⟩ ⟨0x8000000000000000, 0⟩

/-- The batch with two configurations behind it that do not encode, the second of which is for an
array that does not exist. -/
def strayBatch : WriteBatch :=
  (terseBatch.push oversized).push (.reset ⟨⟨"x", by decide⟩, 0⟩)

theorem terse_answers_by_place :
    let first := submit Sample.pipeline terseBatch terseClient
    let second := submit Sample.pipeline terseBatch first.2
    let stray := submit Sample.pipeline strayBatch terseClient
    first.1.accepted = [.reset Sample.handle.cell] ∧
      first.1.failed.map (·.refusal) = [some "busy", some "no status returned for entity"] ∧
      first.2.calls.length = 1 ∧
      ShadowStore.recordOutcome (∅ : ShadowTable) second.1 =
        ShadowStore.recordBatch ∅ terseBatch ∧
      stray.2 = terseClient ∧
      stray.1.outcomes.map (·.refusal) =
        List.replicate 5 (some "cir value 9223372036854775808 out of range") := by
  intro first second stray
  have encodes : ∀ config ∈ terseBatch.configs, ∃ entry,
      Codec.encode Sample.pipeline config = .ok entry :=
    Codec.isOk_encodeAll_iff.mp ⟨_, by rfl⟩
  have tooLarge : ∃ config ∈ strayBatch.configs, ∃ error,
      Codec.encode Sample.pipeline config = .error error :=
    ⟨oversized, by simp [strayBatch, WriteBatch.push],
      .outOfRange .cir 9223372036854775808, by decide +kernel⟩
  obtain ⟨_, sent, _⟩ :=
    submissions_answered_by_place Sample.pipeline terseBatch terseClient (∅ : ShadowTable)
  obtain ⟨entries, answer, connection, _, written, after, answered⟩ := sent encodes
  cases written
  obtain ⟨_, _, clean⟩ :=
    submissions_answered_by_place Sample.pipeline terseBatch first.2 (∅ : ShadowTable)
  obtain ⟨unsent, _⟩ :=
    submissions_answered_by_place Sample.pipeline strayBatch terseClient (∅ : ShadowTable)
  obtain ⟨unchanged, _⟩ := unsent tooLarge
  refine ⟨answered.taken, ?_, ?_, clean (by decide +kernel), unchanged, by decide +kernel⟩
  · rw [answered.failed]
    rfl
  · rw [after]
    rfl

end Client

end MeterSync
