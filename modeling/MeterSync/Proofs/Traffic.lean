import Mathlib.Data.List.Forall2
import MeterSync.Client.Recorded
import MeterSync.Proofs.Codec.RoundTrip
import MeterSync.Proofs.Representation

/-!
# Counted and sent

A write is counted before its cell is encoded, and the call is made only if the cell encodes. So
the count of submitted writes runs ahead of the calls with every operation whose cell has no place
on the wire: its index is too large, or it is removed from an array that is not there. Every call
that is made carries the one entry of its operation.
-/

set_option autoImplicit false

namespace MeterSync

/-! ## The entry of an operation -/

/-- The entry of what an operation asks for, if it asks for anything and that encodes. -/
def Operation.encoding? (pipelines : PipelineTable) (operation : Operation) : Option Wire.Entry :=
  (pipelines.get? operation.meter.device).bind fun pipeline =>
    (pipeline.requested operation).toOption.bind fun config =>
      (Codec.encode pipeline config).toOption

def Operation.encodes (pipelines : PipelineTable) (operation : Operation) : Bool :=
  (operation.encoding? pipelines).isSome

/-- The call writes the entry of the operation to its device, and nothing else. -/
def ClientCall.Delivers (pipelines : PipelineTable) (operation : Operation) (call : ClientCall) :
    Prop :=
  ∃ entry answer, operation.encoding? pipelines = some entry ∧
    call = .write operation.meter.device [entry] answer

section Entry

variable {pipelines : PipelineTable} {operation : Operation} {pipeline : Pipeline}
  {config : CellConfig}

theorem Operation.encoding?_of_requested
    (found : pipelines.get? operation.meter.device = some pipeline)
    (requested : pipeline.requested operation = .ok config) :
    operation.encoding? pipelines = (Codec.encode pipeline config).toOption := by
  rw [encoding?, found, Option.bind_some, requested]
  rfl

theorem Pipeline.encode_requested_iff (requested : pipeline.requested operation = .ok config) :
    (∃ entry, Codec.encode pipeline config = .ok entry) ↔
      (∃ array ∈ pipeline.arrays, array.id = operation.meter.cell.meter) ∧
        operation.meter.cell.index ≤ Codec.maxWireValue := by
  obtain ⟨sameCell, regular⟩ := Pipeline.requested_spec requested
  rw [← sameCell, ← Codec.isOk_encodeKey_iff]
  simp only [Codec.encode_eq_ok_iff regular]
  constructor
  · rintro ⟨_, key, keyed, _⟩
    exact ⟨key, keyed⟩
  · rintro ⟨key, keyed⟩
    exact ⟨_, key, keyed, rfl⟩

/-- What is added or modified resolved in its array, so only its index can be in the way. -/
theorem Operation.not_encodes_iff
    (found : pipelines.get? operation.meter.device = some pipeline)
    (requested : pipeline.requested operation = .ok config) :
    operation.encodes pipelines = false ↔
      Codec.maxWireValue < operation.meter.cell.index ∨
        operation.kind = .remove ∧ pipeline.array? operation.meter.cell.meter = none := by
  have encodes : operation.encodes pipelines = true ↔
      (∃ array ∈ pipeline.arrays, array.id = operation.meter.cell.meter) ∧
        operation.meter.cell.index ≤ Codec.maxWireValue := by
    rw [← Pipeline.encode_requested_iff requested, Operation.encodes,
      Operation.encoding?_of_requested found requested]
    cases Codec.encode pipeline config <;> simp [Except.toOption]
  have missing : pipeline.array? operation.meter.cell.meter = none ↔
      ¬ ∃ array ∈ pipeline.arrays, array.id = operation.meter.cell.meter := by
    simp [Pipeline.array?, List.find?_eq_none]
  rw [← Bool.not_eq_true, encodes, missing, not_and_or, UInt64.not_le]
  constructor
  · rintro (unknown | large)
    · refine .inr ⟨?_, unknown⟩
      by_contra keeps
      obtain ⟨array, member, named, _⟩ :=
        Pipeline.array_of_resolve (Pipeline.resolve_of_keeps requested keeps)
      exact unknown ⟨array, member, named⟩
    · exact .inl large
  · rintro (large | ⟨_, unknown⟩)
    · exact .inr large
    · exact .inl unknown

theorem RecordedClient.submit_delivers {Connection : Type} [Client Connection]
    (found : pipelines.get? operation.meter.device = some pipeline)
    (requested : pipeline.requested operation = .ok config) (client : RecordedClient Connection) :
    ∃ calls,
      (Client.submit pipeline ⟨operation.meter.device, [config]⟩ client).2.calls =
        client.calls ++ calls ∧
      List.Forall₂ (ClientCall.Delivers pipelines) ([operation].filter (·.encodes pipelines))
        calls := by
  have same := Operation.encoding?_of_requested found requested
  cases encoded : Codec.encode pipeline config with
  | error error =>
      rw [encoded] at same
      have withheld : operation.encodes pipelines = false := congrArg Option.isSome same
      rw [Pipeline.submit_of_encode_error encoded, List.filter_singleton, withheld]
      exact ⟨[], (List.append_nil _).symm, .nil⟩
  | ok entry =>
      rw [encoded] at same
      have sent : operation.encodes pipelines = true := congrArg Option.isSome same
      have all : Codec.encodeAll pipeline [config] = .ok [entry] :=
        Codec.encodeAll_eq_ok_iff.mpr (by rw [List.map_singleton, List.map_singleton, encoded])
      rw [Client.submit_of_encodeAll all, List.filter_singleton, sent]
      exact ⟨_, rfl, .cons ⟨entry, _, same, rfl⟩ .nil⟩

end Entry

namespace Coordinator

section Submissions

variable {Shadow Connection : Type} [ShadowStore Shadow]

/-- The operation calls for a write: it asks for something, and the shadow does not show that. -/
def submits (coordinator : Coordinator Shadow Connection) (operation : Operation) : Bool :=
  match coordinator.pipeline? operation.meter.device with
  | none => false
  | some pipeline =>
    match pipeline.requested operation with
    | .error _ => false
    | .ok config => !ShadowStore.holds coordinator.shadow operation.meter.handle config

/-- The operations that call for a write when it is their turn. -/
def submitted [Client Connection] (coordinator : Coordinator Shadow Connection) :
    List Operation → List Operation
  | [] => []
  | operation :: operations =>
    (if coordinator.submits operation then [operation] else []) ++
      (coordinator.process operation).2.submitted operations

theorem submits_of_requested {coordinator : Coordinator Shadow Connection} {operation : Operation}
    {pipeline : Pipeline} {config : CellConfig}
    (found : coordinator.pipeline? operation.meter.device = some pipeline)
    (requested : pipeline.requested operation = .ok config) :
    coordinator.submits operation = true ↔
      ShadowStore.find? coordinator.shadow operation.meter.handle ≠ some config := by
  simp only [submits, found, requested, Bool.not_eq_true', ← Bool.not_eq_true, ne_eq,
    ShadowStore.holds_iff]

theorem of_submits {coordinator : Coordinator Shadow Connection} {operation : Operation}
    (submits : coordinator.submits operation = true) :
    ∃ pipeline config, coordinator.pipeline? operation.meter.device = some pipeline ∧
      pipeline.requested operation = .ok config := by
  rw [Coordinator.submits] at submits
  split at submits
  · cases submits
  · rename_i pipeline found
    split at submits
    · cases submits
    · rename_i config requested
      exact ⟨pipeline, config, found, requested⟩

end Submissions

/-! ## What a run sends -/

section Traffic

variable {Shadow Connection : Type}
  {before between after : Coordinator Shadow (RecordedClient Connection)}

/-- These operations are counted as submitted in between, and the calls made in between deliver the
ones among them that encode. -/
structure Traffic (before after : Coordinator Shadow (RecordedClient Connection))
    (submitted : List Operation) (calls : List ClientCall) : Prop where
  pipelines : after.pipelines = before.pipelines
  counted : after.stats.writesSubmitted = before.stats.writesSubmitted + submitted.length
  made : after.connection.calls = before.connection.calls ++ calls
  delivered : List.Forall₂ (ClientCall.Delivers before.pipelines)
    (submitted.filter (·.encodes before.pipelines)) calls

theorem Traffic.nothing (samePipelines : after.pipelines = before.pipelines)
    (sameCount : after.stats.writesSubmitted = before.stats.writesSubmitted)
    (sameCalls : after.connection.calls = before.connection.calls) : Traffic before after [] [] :=
  ⟨samePipelines, sameCount, sameCalls.trans (List.append_nil _).symm, .nil⟩

theorem Traffic.append {earlier later : List Operation} {earlierCalls laterCalls : List ClientCall}
    (first : Traffic before between earlier earlierCalls)
    (second : Traffic between after later laterCalls) :
    Traffic before after (earlier ++ later) (earlierCalls ++ laterCalls) := by
  obtain ⟨pipelines, counted, made, delivered⟩ := second
  rw [first.pipelines] at delivered
  constructor
  · exact pipelines.trans first.pipelines
  · rw [counted, first.counted, List.length_append, Nat.add_assoc]
  · rw [made, first.made, List.append_assoc]
  · rw [List.filter_append]
    exact List.rel_append first.delivered delivered

variable [ShadowStore Shadow] [Client Connection]

omit [ShadowStore Shadow] in
theorem Traffic.submit {operation : Operation} {pipeline : Pipeline} {config : CellConfig}
    {outcome : BatchOutcome}
    (found : before.pipeline? operation.meter.device = some pipeline)
    (requested : pipeline.requested operation = .ok config)
    (submitted : Client.submit pipeline ⟨operation.meter.device, [config]⟩ before.connection =
      (outcome, after.connection))
    (samePipelines : after.pipelines = before.pipelines)
    (counted : after.stats.writesSubmitted = before.stats.writesSubmitted + 1) :
    ∃ calls, Traffic before after [operation] calls := by
  obtain ⟨calls, made, delivered⟩ :=
    RecordedClient.submit_delivers found requested before.connection
  rw [submitted] at made
  exact ⟨calls, samePipelines, counted, made, delivered⟩

theorem Processed.traffic {operation : Operation} {result : Except OperationError Unit}
    (ended : Processed before operation result after) :
    ∃ calls, Traffic before after (if before.submits operation then [operation] else [])
      calls := by
  cases ended with
  | unknown missing =>
      have passed : ¬ before.submits operation = true := by simp [submits, missing]
      rw [if_neg passed]
      exact ⟨[], .nothing rfl rfl rfl⟩
  | unresolved found unresolved =>
      have passed : ¬ before.submits operation = true := by simp [submits, found, unresolved]
      rw [if_neg passed]
      exact ⟨[], .nothing rfl rfl rfl⟩
  | skipped found requested shown =>
      have passed := mt (submits_of_requested found requested).mp (not_not_intro shown)
      rw [if_neg passed]
      exact ⟨[], .nothing rfl rfl rfl⟩
  | refused found requested hidden submitted _ _ =>
      rw [if_pos ((submits_of_requested found requested).mpr hidden)]
      exact Traffic.submit found requested submitted rfl rfl
  | written found requested hidden submitted _ =>
      rw [if_pos ((submits_of_requested found requested).mpr hidden)]
      exact Traffic.submit found requested submitted rfl rfl

theorem serveAll_traffic (before : Coordinator Shadow (RecordedClient Connection))
    (operations : List Operation) :
    ∃ calls, Traffic before (before.serveAll (operations.map .process))
      (before.submitted operations) calls := by
  induction operations generalizing before with
  | nil => exact ⟨[], .nothing rfl rfl rfl⟩
  | cons operation operations ih =>
      obtain ⟨first, here⟩ := (before.processed operation).traffic
      obtain ⟨later, rest⟩ := ih (before.process operation).2
      exact ⟨first ++ later, here.append rest⟩

theorem requested_of_submitted {before : Coordinator Shadow (RecordedClient Connection)}
    {operations : List Operation} {operation : Operation}
    (member : operation ∈ before.submitted operations) :
    ∃ pipeline config, before.pipeline? operation.meter.device = some pipeline ∧
      pipeline.requested operation = .ok config := by
  induction operations generalizing before with
  | nil => cases member
  | cons first operations ih =>
      obtain here | later := List.mem_append.mp member
      · split at here
        · rename_i submits
          cases List.mem_singleton.mp here
          exact of_submits submits
        · cases here
      · obtain ⟨pipeline, config, found, requested⟩ := ih later
        rw [pipeline?_congr (before.processed first).pipelines] at found
        exact ⟨pipeline, config, found, requested⟩

/-- In a run of operations against any client, one call is made for each submitted operation that
encodes, in order, with its own entry and no other. But the count goes up with every submitted
operation. So the two agree only if all of them encode, and one does not if its index is too large
for the wire or if it removes a cell of an array that its device does not have. -/
theorem counted_writes_delivered (before : Coordinator Shadow (RecordedClient Connection))
    (operations : List Operation) :
    let after := before.serveAll (operations.map .process)
    let submitted := before.submitted operations
    ∃ calls,
      after.connection.calls = before.connection.calls ++ calls ∧
      List.Forall₂ (ClientCall.Delivers before.pipelines)
        (submitted.filter (·.encodes before.pipelines)) calls ∧
      after.stats.writesSubmitted = before.stats.writesSubmitted + submitted.length ∧
      (after.stats.writesSubmitted = before.stats.writesSubmitted + calls.length ↔
        ∀ operation ∈ submitted, operation.encodes before.pipelines = true) ∧
      ∀ operation ∈ submitted, ∃ pipeline,
        before.pipeline? operation.meter.device = some pipeline ∧
        (operation.encodes before.pipelines = false ↔
          Codec.maxWireValue < operation.meter.cell.index ∨
            operation.kind = .remove ∧ pipeline.array? operation.meter.cell.meter = none) := by
  intro after submitted
  obtain ⟨calls, traffic⟩ := before.serveAll_traffic operations
  refine ⟨calls, traffic.made, traffic.delivered, traffic.counted, ?_, ?_⟩
  · rw [traffic.counted, Nat.add_left_cancel_iff, ← traffic.delivered.length_eq, eq_comm]
    exact List.length_filter_eq_length_iff
  · intro operation member
    obtain ⟨pipeline, config, found, requested⟩ := requested_of_submitted member
    exact ⟨pipeline, found, Operation.not_encodes_iff found requested⟩

end Traffic

/-- The removal of a cell of an array that the device does not have. -/
def ghostRemoval : Operation where
  kind := .remove
  meter := { Sample.addition.meter with cell := ⟨⟨"ghost", by decide⟩, 0⟩ }

def ghostStart : Coordinator ShadowTable (RecordedClient Simulator) :=
  .new 1 Sample.pipelines ∅ ⟨.ofDevices [(Sample.device, Sample.pipeline)], []⟩

theorem counted_writes_ghost :
    let operations := [Sample.addition, ghostRemoval]
    let after := ghostStart.serveAll (operations.map .process)
    ghostStart.submitted operations = operations ∧
      ghostRemoval.encodes Sample.pipelines = false ∧
      after.stats.writesSubmitted = 2 ∧
      ∃ call, after.connection.calls = [call] ∧
        ClientCall.Delivers Sample.pipelines Sample.addition call := by
  intro operations after
  have all : ghostStart.submitted operations = operations := by decide +kernel
  have encoded : operations.filter (·.encodes Sample.pipelines) = [Sample.addition] := by
    decide +kernel
  obtain ⟨calls, made, delivered, counted, _, withheld⟩ :=
    counted_writes_delivered ghostStart operations
  rw [all] at delivered counted withheld
  rw [show operations.filter (·.encodes ghostStart.pipelines) = [Sample.addition] from encoded]
    at delivered
  obtain ⟨pipeline, found, unsent⟩ := withheld ghostRemoval (by decide)
  have foundSample : ghostStart.pipeline? ghostRemoval.meter.device = some Sample.pipeline := by
    decide +kernel
  cases foundSample.symm.trans found
  cases delivered with
  | cons delivers rest =>
      cases rest
      exact ⟨all, unsent.mpr (.inr ⟨rfl, by decide⟩), counted, _, made, delivers⟩

/-- The removal is counted as submitted, and the client receives no call. -/
theorem ghost_removal_counted_not_sent :
    let after := ghostStart.serveAll [.process ghostRemoval]
    (ghostStart.process ghostRemoval).1 =
        .error (.writeFailed Sample.device "meter ghost not found in pipeline") ∧
      after.stats.writesSubmitted = 1 ∧
      after.connection.calls.length = 0 := by
  decide +kernel

end Coordinator

end MeterSync
