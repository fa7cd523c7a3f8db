import Mathlib.Algebra.GroupWithZero.Nat
import MeterSync.Client.Scripted
import MeterSync.Proofs.Failures
import MeterSync.Proofs.Isolation

/-!
# Statistics

The counts of a coordinator are raised one by one along the many ways in which requests end. Each
way raises them by an amount that fits the reply, and amounts add up in any order. So the counts
always balance with the requests and their replies, whatever the clients answer, and however
requests that run side by side take turns. Counts have no bound here.
-/

set_option autoImplicit false

namespace MeterSync

/-! ## What routines add to the counts -/

abbrev Access.Silent (access : Access) : Prop :=
  access.amount = .zero

namespace Routine

variable {Result Other : Type}

/-- Whatever it is answered, what the routine comes to and what it adds to the counts fit
together. -/
def Counts : Routine Access.Answer Result → (Result → Stats → Prop) → Prop
  | .done result, fits => fits result .zero
  | .step access next, fits =>
    ∀ answer, (next answer).Counts fun result later => fits result (access.amount.plus later)

theorem Counts.mono {routine : Routine Access.Answer Result} {fits wider : Result → Stats → Prop}
    (counts : routine.Counts fits)
    (weaker : ∀ result amount, fits result amount → wider result amount) :
    routine.Counts wider := by
  induction routine generalizing fits wider with
  | done result => exact weaker result .zero counts
  | step access next ih =>
      intro answer
      exact ih answer (counts answer) fun result later => weaker result (access.amount.plus later)

theorem counts_bind {routine : Routine Access.Answer Result}
    {next : Result → Routine Access.Answer Other} {fits : Other → Stats → Prop} :
    (routine >>= next).Counts fits ↔
      routine.Counts fun result amount =>
        (next result).Counts fun last later => fits last (amount.plus later) := by
  induction routine generalizing fits with
  | done result =>
      change (next result).Counts fits ↔
        (next result).Counts fun last later => fits last (Stats.zero.plus later)
      simp only [Stats.zero_plus]
  | step access later ih =>
      refine forall_congr' fun answer => (ih answer).trans ?_
      simp only [Stats.plus_assoc]

theorem counts_count_bind {amount : Stats} {next : Unit → Routine Access.Answer Result}
    {fits : Result → Stats → Prop} :
    (count amount >>= next).Counts fits ↔
      (next ()).Counts fun result later => fits result (amount.plus later) :=
  ⟨fun each => each (), fun only _ => only⟩

theorem Within.counts_bind {routine : Routine Access.Answer Result}
    {next : Result → Routine Access.Answer Other} {fits : Other → Stats → Prop}
    (within : routine.Within Access.Silent) (later : ∀ result, (next result).Counts fits) :
    (routine >>= next).Counts fits := by
  induction within with
  | done result => exact later result
  | step silent _ ih =>
      intro answer
      simp only [silent, Stats.zero_plus]
      exact ih answer

theorem submit_silent (pipeline : Pipeline) (batch : WriteBatch) :
    (submit pipeline batch).Within Access.Silent := by
  unfold submit
  cases Codec.encodeAll pipeline batch.configs with
  | error error => exact .done _
  | ok entries => exact Within.bind (.ask (by rfl)) fun _ => .done _

theorem record_silent (device : DeviceId) (configs : List CellConfig) :
    (record device configs).Within Access.Silent := by
  apply Within.inOrder
  intro routine listed
  obtain ⟨config, _, rfl⟩ := List.mem_map.mp listed
  exact .ask rfl

theorem judge_silent (device : DeviceId) (config : CellConfig) :
    (judge device config).Within Access.Silent := by
  unfold judge
  refine Within.bind (.ask (by rfl)) fun intent => ?_
  cases intent with
  | none => exact .done _
  | some intent =>
      dsimp only
      split
      · exact .done _
      · exact Within.bind (.ask (by rfl)) fun _ => .done _

theorem correction?_silent (device : DeviceId) (config : CellConfig) (verdict : Verdict) :
    (correction? device config verdict).Within Access.Silent := by
  cases verdict with
  | consistent meter => exact .done _
  | default => exact .done _
  | inconsistent => exact Within.bind (.ask (by rfl)) fun _ => .done _

theorem deliver_counts {pipeline : Pipeline} {handle : CellHandle} {config : CellConfig}
    {fits : Except OperationError Unit → Stats → Prop}
    (skipped : fits (.ok ()) { Stats.zero with writesSkipped := 1 })
    (written : fits (.ok ()) { Stats.zero with writesSubmitted := 1 })
    (refused : ∀ error,
      fits (.error error) { Stats.zero with writesSubmitted := 1, writeFailures := 1 }) :
    (deliver pipeline handle config).Counts fits := by
  unfold deliver
  apply Within.counts_bind (.ask (by rfl))
  intro shown
  split
  · exact counts_count_bind.mpr skipped
  · apply counts_count_bind.mpr
    apply (submit_silent ..).counts_bind
    intro outcome
    unfold conclude
    cases outcome.refusals with
    | nil => exact fun _ => written
    | cons reason reasons => exact fun _ => refused _

theorem correct_counts (pipeline : Pipeline) (batch : WriteBatch) :
    (correct pipeline batch).Counts fun outcome amount =>
      amount =
        { Stats.zero with
          cellsReset := outcome.accepted.length
          resetFailures := outcome.failed.length } := by
  unfold correct
  split
  · rfl
  · apply (submit_silent ..).counts_bind
    intro outcome
    apply (record_silent ..).counts_bind
    intro _
    exact counts_count_bind.mpr rfl

theorem repair_counts (pipeline : Pipeline) (device : DeviceId) (readout : Readout) :
    (repair pipeline device readout).Counts fun report amount =>
      amount =
        { Stats.zero with
          cellsReset := report.reset
          resetFailures := report.resetFailed } := by
  unfold repair
  apply Within.counts_bind
  · apply Within.inOrder
    intro routine listed
    obtain ⟨config, _, rfl⟩ := List.mem_map.mp listed
    exact (judge_silent device config).bind fun _ => .done _
  · intro judged
    apply Within.counts_bind
    · apply Within.inOrder
      intro routine listed
      obtain ⟨each, _, rfl⟩ := List.mem_map.mp listed
      exact correction?_silent device each.1 each.2
    · intro resets
      exact counts_bind.mpr ((correct_counts pipeline _).mono fun _ _ counted => counted)

end Routine

/-! ## Requests -/

namespace PipelineTable

variable {pipelines : PipelineTable} {device : DeviceId}

theorem mem_iff : device ∈ pipelines ↔ (pipelines.get? device).isSome = true :=
  Std.TreeMap.mem_iff_isSome_getElem?

theorem mem_of_get? {pipeline : Pipeline} (found : pipelines.get? device = some pipeline) :
    device ∈ pipelines := by
  rw [mem_iff, found]
  rfl

theorem not_mem_of_get? (missing : pipelines.get? device = none) : device ∉ pipelines := by
  rw [mem_iff, missing]
  exact Bool.false_ne_true

end PipelineTable

/-- The ways in which a request ends: the reply and what was added to the counts. -/
inductive Request.Tallied (pipelines : PipelineTable) : Request → Reply → Stats → Prop where
  | noPipeline {operation : Operation} (error : OperationError) :
      operation.meter.device ∉ pipelines →
      Tallied pipelines (.process operation) (.processed (.error error)) .zero
  | unresolved {operation : Operation} (error : OperationError) :
      operation.meter.device ∈ pipelines →
      Tallied pipelines (.process operation) (.processed (.error error))
        { Stats.zero with operations := 1, resolutionFailures := 1 }
  | skipped {operation : Operation} :
      operation.meter.device ∈ pipelines →
      Tallied pipelines (.process operation) (.processed (.ok ()))
        { Stats.zero with operations := 1, writesSkipped := 1 }
  | written {operation : Operation} :
      operation.meter.device ∈ pipelines →
      Tallied pipelines (.process operation) (.processed (.ok ()))
        { Stats.zero with operations := 1, writesSubmitted := 1 }
  | refused {operation : Operation} (error : OperationError) :
      operation.meter.device ∈ pipelines →
      Tallied pipelines (.process operation) (.processed (.error error))
        { Stats.zero with operations := 1, writesSubmitted := 1, writeFailures := 1 }
  | unknown {device : DeviceId} :
      device ∉ pipelines → Tallied pipelines (.reconcile device) (.reconciled .empty) .zero
  | reconciled {device : DeviceId} (report : Report) :
      device ∈ pipelines →
      Tallied pipelines (.reconcile device) (.reconciled report)
        { Stats.zero with
          reconciliations := 1
          cellsReset := report.reset
          resetFailures := report.resetFailed }

namespace Routine

variable (pipelines : PipelineTable)

theorem process_counts (operation : Operation) :
    (process pipelines operation).Counts fun result amount =>
      Request.Tallied pipelines (.process operation) (.processed result) amount := by
  unfold process
  cases found : pipelines.get? operation.meter.device with
  | none => exact .noPipeline _ (PipelineTable.not_mem_of_get? found)
  | some pipeline =>
      have known := PipelineTable.mem_of_get? found
      apply counts_count_bind.mpr
      cases pipeline.requested operation with
      | error error => exact counts_count_bind.mpr (.unresolved _ known)
      | ok config =>
          apply Within.counts_bind (.ask (by rfl))
          intro _
          exact deliver_counts (.skipped known) (.written known) fun error => .refused error known

theorem reconcile_counts (device : DeviceId) :
    (reconcile pipelines device).Counts fun report amount =>
      Request.Tallied pipelines (.reconcile device) (.reconciled report) amount := by
  unfold reconcile
  cases found : pipelines.get? device with
  | none => exact .unknown (PipelineTable.not_mem_of_get? found)
  | some pipeline =>
      have known := PipelineTable.mem_of_get? found
      apply counts_count_bind.mpr
      apply Within.counts_bind (.ask (by rfl))
      intro answer
      cases answer with
      | error error => exact .reconciled .empty known
      | ok entries =>
          apply (record_silent ..).counts_bind
          intro _
          apply (repair_counts pipeline device _).mono
          rintro report _ rfl
          simpa [Stats.plus, Stats.zero] using Request.Tallied.reconciled report known

theorem serve_counts (request : Request) :
    (serve pipelines request).Counts (request.Tallied pipelines) := by
  cases request with
  | process operation =>
      apply counts_bind.mpr
      exact (process_counts pipelines operation).mono fun _ _ tallied => tallied
  | reconcile device =>
      apply counts_bind.mpr
      exact (reconcile_counts pipelines device).mono fun _ _ tallied => tallied

end Routine

/-! ## The balance -/

/-- The request is an operation for a device with a pipeline. -/
def Request.operates (pipelines : PipelineTable) : Request → Bool
  | .process operation => operation.meter.device ∈ pipelines
  | .reconcile _ => false

/-- The request is a reconciliation of a device with a pipeline. -/
def Request.reconciles (pipelines : PipelineTable) : Request → Bool
  | .process _ => false
  | .reconcile device => device ∈ pipelines

def Reply.succeeded : Reply → Bool
  | .processed result => result.isOk
  | .reconciled _ => false

def Reply.report? : Reply → Option Report
  | .processed _ => none
  | .reconciled report => some report

/-- The counts balance with requests and the replies to them, one for each. -/
structure Stats.Balanced (pipelines : PipelineTable) (requests : List Request)
    (replies : List Reply) (stats : Stats) : Prop where
  answered : replies.length = requests.length
  operations : stats.operations = requests.countP (·.operates pipelines)
  outcomes :
    stats.operations = stats.writesSubmitted + stats.writesSkipped + stats.resolutionFailures
  failures : stats.writeFailures ≤ stats.writesSubmitted
  successes :
    (requests.zip replies).countP (fun each => each.1.operates pipelines && each.2.succeeded) =
      stats.writesSkipped + stats.writesSubmitted - stats.writeFailures
  reconciliations : stats.reconciliations = requests.countP (·.reconciles pipelines)
  cellsReset : stats.cellsReset = ((replies.filterMap Reply.report?).map Report.reset).sum
  resetFailures :
    stats.resetFailures = ((replies.filterMap Reply.report?).map Report.resetFailed).sum

namespace Stats

variable {pipelines : PipelineTable}

theorem Balanced.nil : zero.Balanced pipelines [] [] :=
  ⟨rfl, rfl, rfl, Nat.le_refl 0, rfl, rfl, rfl, rfl⟩

theorem Balanced.append {requests laterRequests : List Request} {replies laterReplies : List Reply}
    {stats amount : Stats} (first : stats.Balanced pipelines requests replies)
    (second : amount.Balanced pipelines laterRequests laterReplies) :
    (stats.plus amount).Balanced pipelines (requests ++ laterRequests)
      (replies ++ laterReplies) where
  answered := by rw [List.length_append, List.length_append, first.answered, second.answered]
  operations := by rw [List.countP_append, plus, first.operations, second.operations]
  outcomes := by
    have outcomes := first.outcomes
    have laterOutcomes := second.outcomes
    simp only [plus]
    omega
  failures := Nat.add_le_add first.failures second.failures
  successes := by
    have failures := first.failures
    have laterFailures := second.failures
    rw [List.zip_append first.answered.symm, List.countP_append, first.successes,
      second.successes]
    simp only [plus]
    omega
  reconciliations := by
    rw [List.countP_append, plus, first.reconciliations, second.reconciliations]
  cellsReset := by
    rw [List.filterMap_append, List.map_append, List.sum_append, plus, first.cellsReset,
      second.cellsReset]
  resetFailures := by
    rw [List.filterMap_append, List.map_append, List.sum_append, plus, first.resetFailures,
      second.resetFailures]

-- Each way to end is a balance of its own, and runs only add such balances up.
theorem Balanced.of_tallied {request : Request} {reply : Reply} {amount : Stats}
    (tallied : request.Tallied pipelines reply amount) :
    amount.Balanced pipelines [request] [reply] := by
  cases tallied <;> constructor <;>
    simp [zero, Request.operates, Request.reconciles, Reply.succeeded, Reply.report?, Report.empty,
      Except.isOk, Except.toBool, List.filterMap_cons, *]

end Stats

namespace Routine

theorem serveAll_counts (pipelines : PipelineTable) (requests : List Request) :
    (inOrder (requests.map (serve pipelines))).Counts fun replies amount =>
      amount.Balanced pipelines requests replies := by
  induction requests with
  | nil => exact .nil
  | cons request requests ih =>
      apply counts_bind.mpr
      apply (serve_counts pipelines request).mono
      intro reply amount tallied
      apply counts_bind.mpr
      apply ih.mono
      intro replies later balanced
      exact (Stats.Balanced.of_tallied tallied).append balanced

section Turns

variable {Result Shadow Connection : Type} [ShadowStore Shadow] [Client Connection]
  {routines before after : List (Routine Access.Answer Result)}
  {state last : Coordinator Shadow Connection} {results : List Result}
  {fits : List Result → Stats → Prop}

theorem counts_inOrder_cons {routine : Routine Access.Answer Result} :
    (inOrder (routine :: routines)).Counts fits ↔
      routine.Counts fun result amount =>
        (inOrder routines).Counts fun results later =>
          fits (result :: results) (amount.plus later) := by
  apply counts_bind.trans
  simp only [counts_bind]
  rfl

/-- What an access adds may as well be added before the routines that come first. -/
theorem counts_inOrder_turn {access : Access} {next : access.Answer → Routine Access.Answer Result}
    (counts : (inOrder (before ++ step access next :: after)).Counts fits)
    (answer : access.Answer) :
    (inOrder (before ++ next answer :: after)).Counts fun results later =>
      fits results (access.amount.plus later) := by
  induction before generalizing fits with
  | nil => exact counts answer
  | cons routine before ih =>
      apply counts_inOrder_cons.mpr
      apply (counts_inOrder_cons.mp counts).mono
      intro result amount rest
      simp only [Stats.plus_left_comm access.amount]
      exact ih rest

theorem counts_inOrder_done :
    (inOrder (results.map done : List (Routine Access.Answer Result))).Counts fits ↔
      fits results .zero := by
  induction results generalizing fits with
  | nil => rfl
  | cons result results ih => exact counts_inOrder_cons.trans ih

/-- However routines take turns, the counts go up by what fits their results in order. -/
theorem Interleaves.counts
    (interleaved : Interleaves Access.perform routines state results last)
    (counts : (Routine.inOrder routines).Counts fits) :
    ∃ amount, fits results amount ∧ last.stats = state.stats.plus amount := by
  induction interleaved generalizing fits with
  | finished results state => exact ⟨.zero, counts_inOrder_done.mp counts, rfl⟩
  | turn _ ih =>
      obtain ⟨amount, fit, ended⟩ := ih (counts_inOrder_turn counts _)
      refine ⟨_, fit, ?_⟩
      rw [ended, Access.perform_stats, Stats.plus_assoc]

end Turns

end Routine

namespace Coordinator

variable {Shadow Connection : Type} [ShadowStore Shadow] [Client Connection]

/-- What is returned to requests that are served in order. -/
def replyAll (coordinator : Coordinator Shadow Connection) : List Request → List Reply
  | [] => []
  | request :: requests =>
    coordinator.reply request :: (coordinator.serve request).replyAll requests

theorem run_serveAll (coordinator : Coordinator Shadow Connection) (requests : List Request) :
    (Routine.inOrder (requests.map (Routine.serve coordinator.pipelines))).run Access.perform
        coordinator = (coordinator.replyAll requests, coordinator.serveAll requests) := by
  induction requests generalizing coordinator with
  | nil => rfl
  | cons request requests ih =>
      have later := ih (coordinator.serve request)
      rw [serve_pipelines] at later
      rw [List.map_cons, Routine.run_inOrder_cons, Routine.run_serve]
      simp only [later, replyAll, serveAll, List.foldl_cons]

/-- From a new coordinator on, the counts balance with any requests and their replies, whatever the
clients answer: when the requests are served in order, and also when they take turns in any way. -/
theorem statistics_balance (lockStripes : UInt64) (pipelines : PipelineTable) (shadow : Shadow)
    (connection : Connection) (requests : List Request) :
    let start : Coordinator Shadow Connection := .new lockStripes pipelines shadow connection
    (start.serveAll requests).stats.Balanced pipelines requests (start.replyAll requests) ∧
      ∀ replies (last : Coordinator Shadow Connection),
        Routine.Interleaves Access.perform (requests.map (Routine.serve pipelines)) start replies
            last →
          last.stats.Balanced pipelines requests replies := by
  intro start
  have balanced : ∀ replies (last : Coordinator Shadow Connection),
      Routine.Interleaves Access.perform (requests.map (Routine.serve pipelines)) start replies
          last →
        last.stats.Balanced pipelines requests replies := by
    intro replies last interleaved
    obtain ⟨amount, balanced, counted⟩ :=
      interleaved.counts (Routine.serveAll_counts pipelines requests)
    have fresh : start.stats = .zero := rfl
    rw [counted, fresh, Stats.zero_plus]
    exact balanced
  refine ⟨?_, balanced⟩
  have inOrder := Routine.Interleaves.inOrder Access.perform
    (requests.map (Routine.serve pipelines)) start
  have served : (Routine.inOrder (requests.map (Routine.serve pipelines))).run Access.perform
      start = (start.replyAll requests, start.serveAll requests) := start.run_serveAll requests
  rw [served] at inOrder
  exact balanced _ _ inOrder

/-- The removal of the cell of the addition. -/
def cellRemoval : Operation :=
  { Sample.addition with kind := .remove }

/-- Requests that end in every way. -/
def variedRequests : List Request :=
  [.process Sample.addition, .process Sample.addition, .process meagreAddition,
    .process strayAddition, .process cellRemoval, .reconcile Sample.device, .reconcile stranger]

/-- An addition, and a reconciliation that is done before it. -/
def overtaken : List Request :=
  [.process Sample.addition, .reconcile Sample.device]

/-- A client that takes the first write, refuses the second, and then one of two resets. -/
def fickleClient : ScriptedClient where
  simulator := .ofDevices [(Sample.device, Sample.pipeline)]
  sent := []
  writeAnswers := [.ok [none], .ok [some "busy"], .ok [none, some "busy"]]
  readAnswers := [.ok [⟨5, some 0, some Sample.numbers⟩, ⟨5, some 0, some ⟨-1, 0, 0, 0⟩⟩]]

def fickleStart : Coordinator ShadowTable ScriptedClient :=
  .new 1 Sample.pipelines ∅ fickleClient

theorem varied_requests_balance :
    (fickleStart.serveAll variedRequests).stats = ⟨4, 2, 1, 1, 1, 1, 1, 1⟩ ∧
      (fickleStart.serveAll variedRequests).stats.Balanced Sample.pipelines variedRequests
        (fickleStart.replyAll variedRequests) ∧
      ∃ replies last,
        Routine.Interleaves Access.perform
          (overtaken.map (Routine.serve Sample.pipelines)) fickleStart replies last ∧
        last.stats = ⟨1, 1, 0, 1, 0, 1, 1, 1⟩ ∧
        last.stats.Balanced Sample.pipelines overtaken replies := by
  obtain ⟨inOrder, _⟩ :=
    statistics_balance 1 Sample.pipelines (∅ : ShadowTable) fickleClient variedRequests
  obtain ⟨_, inTurns⟩ :=
    statistics_balance 1 Sample.pipelines (∅ : ShadowTable) fickleClient overtaken
  let addition := Routine.serve Sample.pipelines (.process Sample.addition)
  let reconciliation := Routine.serve Sample.pipelines (.reconcile Sample.device)
  have reconciled : Routine.Interleaves Access.perform
      ([] ++ addition :: [.done (reconciliation.run Access.perform fickleStart).1])
      (reconciliation.run Access.perform fickleStart).2 _ _ :=
    .of_run (.finished [_, _] _)
  have turns : Routine.Interleaves Access.perform ([addition] ++ reconciliation :: [])
      fickleStart _ _ :=
    .of_run reconciled
  exact ⟨by decide +kernel, inOrder, _, _, turns, by decide +kernel, inTurns _ _ turns⟩

end Coordinator

end MeterSync
