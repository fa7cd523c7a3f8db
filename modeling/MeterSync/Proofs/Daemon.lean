import Mathlib.Data.UInt
import MeterSync.Agent
import MeterSync.Proofs.Intents
import MeterSync.Proofs.Placement

/-!
# One pass of the daemon

A daemon that performs the operations of its configuration and then makes one pass reports of every
device exactly the meters that the configuration asks for last.
-/

set_option autoImplicit false

namespace MeterSync

/-! ## Names in order -/

/-- In whatever order they are collected, things of different devices are sorted into the one order
by device. -/
theorem mergeSort_eq_of_perm {α : Type} {device : α → DeviceId} {collected ordered : List α}
    (ascending : (ordered.map device).Pairwise fun first second => compare first second = .lt)
    (permuted : collected.Perm ordered) :
    (collected.mergeSort fun first second => (compare (device first) (device second)).isLE) =
      ordered := by
  have distinct : (ordered.map device).Nodup := ascending.imp fun {first second} before same => by
    rw [same, Std.ReflOrd.compare_self] at before
    cases before
  have sorted : (collected.mergeSort fun first second =>
      (compare (device first) (device second)).isLE).Pairwise fun first second =>
        (compare (device first) (device second)).isLE = true := by
    apply List.pairwise_mergeSort
    · exact fun first second third => Std.TransOrd.isLE_trans
    · intro first second
      rw [Std.OrientedOrd.eq_swap (a := device second)]
      cases compare (device first) (device second) <;> rfl
  apply List.Perm.eq_of_pairwise ?_ sorted ?_ ((List.mergeSort_perm ..).trans permuted)
  · intro first second firstMember secondMember below above
    have listed := permuted.mem_iff.mp (List.mem_mergeSort.mp firstMember)
    have same : device first = device second :=
      Std.LawfulEqOrd.eq_of_compare (Std.OrientedCmp.isLE_antisymm below above)
    exact List.inj_on_of_nodup_map distinct listed secondMember same
  · refine (List.pairwise_map.mp ascending).imp fun before => ?_
    rw [before]
    rfl

/-- Names by ascending text. -/
def DeviceId.sort (devices : List DeviceId) : List DeviceId :=
  devices.mergeSort fun first second => (compare first second).isLE

/-- The names of the devices that have a pipeline, collected in any order and sorted, are the
devices of a coordinator. -/
theorem Coordinator.sort_eq_devices {Shadow Connection : Type}
    {coordinator : Coordinator Shadow Connection} {collected : List DeviceId}
    (permuted : collected.Perm coordinator.devices) :
    DeviceId.sort collected = coordinator.devices := by
  apply mergeSort_eq_of_perm ?_ permuted
  rw [List.map_id']
  exact Std.TreeMap.ordered_keys

/-! ## Fresh devices -/

theorem Simulator.ofDevices_get?_iff {placed : List (DeviceId × Pipeline)}
    (distinct : (placed.map (·.1)).Nodup) {device : DeviceId} {arrays : SimulatedDevice} :
    (ofDevices placed).devices.get? device = some arrays ↔
      ∃ pipeline, (device, pipeline) ∈ placed ∧ .ofPipeline pipeline = arrays := by
  have devices : (ofDevices placed).devices =
      placed.foldl (fun table entry => table.insert entry.1 (.ofPipeline entry.2)) ∅ :=
    (List.foldl_hom Simulator.devices fun _ _ => rfl).symm
  rw [devices, get?_foldl_insert_iff distinct fun _ _ => by simp]
  simp

theorem Simulator.carries_ofDevices {placed : List (DeviceId × Pipeline)}
    (distinct : (placed.map (·.1)).Nodup) {device : DeviceId} {pipeline : Pipeline}
    (member : (device, pipeline) ∈ placed) : (ofDevices placed).Carries device pipeline := by
  have known : (ofDevices placed).devices.get? device = some (.ofPipeline pipeline) :=
    (ofDevices_get?_iff distinct).mpr ⟨pipeline, member, rfl⟩
  have working : (ofDevices placed).failWrites = false ∧ (ofDevices placed).failReads = false :=
    List.foldlRecOn (motive := fun simulator : Simulator =>
      simulator.failWrites = false ∧ simulator.failReads = false) placed _ ⟨rfl, rfl⟩
      fun _ held _ _ => held
  constructor
  · exact working.1
  · exact working.2
  · refine ⟨(SimulatedDevice.ofPipeline pipeline).size?, ?_, fun array arrayMember =>
      SimulatedDevice.size?_ofPipeline arrayMember⟩
    rw [layout, known]
    rfl

namespace Configuration

variable {configuration : Configuration}

theorem simulator_eq (configuration : Configuration) :
    configuration.simulator = .ofDevices
      (configuration.devices.map fun configured => (configured.device, configured.pipeline)) := by
  rw [simulator, Simulator.ofDevices, List.foldl_map]

theorem pipelines_get?_iff (distinct : (configuration.devices.map (·.device)).Nodup)
    {device : DeviceId} {pipeline : Pipeline} :
    configuration.pipelines.get? device = some pipeline ↔
      ∃ configured ∈ configuration.devices,
        configured.device = device ∧ configured.pipeline = pipeline := by
  rw [pipelines, get?_foldl_insert_iff distinct fun _ _ => by simp]
  simp

theorem pipelines_get?_of_mem (distinct : (configuration.devices.map (·.device)).Nodup)
    {configured : ConfiguredDevice} (member : configured ∈ configuration.devices) :
    configuration.pipelines.get? configured.device = some configured.pipeline :=
  (pipelines_get?_iff distinct).mpr ⟨configured, member, rfl, rfl⟩

theorem keys_perm (distinct : (configuration.devices.map (·.device)).Nodup) :
    configuration.pipelines.keys.Perm (configuration.devices.map (·.device)) := by
  refine (List.perm_ext_iff_of_nodup Std.TreeMap.nodup_keys distinct).mpr fun device => ?_
  rw [Std.TreeMap.mem_keys, Std.TreeMap.mem_iff_isSome_getElem?, Option.isSome_iff_exists,
    List.mem_map]
  constructor
  · intro present
    obtain ⟨pipeline, found⟩ := present
    obtain ⟨configured, member, named, _⟩ := (pipelines_get?_iff distinct).mp found
    exact ⟨configured, member, named⟩
  · intro present
    obtain ⟨configured, member, rfl⟩ := present
    exact ⟨configured.pipeline, pipelines_get?_of_mem distinct member⟩

theorem exists_configured {operation : Operation} (member : operation ∈ configuration.operations) :
    ∃ configured ∈ configuration.devices, configured.device = operation.meter.device := by
  obtain ⟨configured, configuredMember, own⟩ := List.mem_flatMap.mp member
  obtain ⟨_, _, rfl⟩ := List.mem_map.mp own
  exact ⟨configured, configuredMember, rfl⟩

theorem exists_pipeline (distinct : (configuration.devices.map (·.device)).Nodup)
    {operation : Operation} (member : operation ∈ configuration.operations) :
    ∃ pipeline, configuration.pipelines.get? operation.meter.device = some pipeline := by
  obtain ⟨configured, configuredMember, same⟩ := exists_configured member
  rw [← same]
  exact ⟨configured.pipeline, pipelines_get?_of_mem distinct configuredMember⟩

theorem inPlace_ofConfiguration (distinct : (configuration.devices.map (·.device)).Nodup)
    (readable : ∀ configured ∈ configuration.devices, configured.pipeline.Readable)
    (interval : UInt64) : (Daemon.ofConfiguration configuration interval).coordinator.InPlace := by
  have listed {device : DeviceId} {pipeline : Pipeline}
      (found : configuration.pipelines.get? device = some pipeline) :=
    (pipelines_get?_iff distinct).mp found
  constructor
  · rw [Daemon.ofConfiguration, simulator_eq]
    exact Coordinator.new_coherent _ _ CellTable.find?_empty _
  · exact Coordinator.new_kept _ _ _
  · intro device pipeline found
    obtain ⟨configured, member, rfl, rfl⟩ := listed found
    exact readable configured member
  · intro device pipeline found
    obtain ⟨configured, member, rfl, rfl⟩ := listed found
    rw [Daemon.ofConfiguration, simulator_eq]
    refine Simulator.carries_ofDevices ?_ (List.mem_map_of_mem member)
    rw [List.map_map]
    exact distinct
  · intro device pipeline found cell member
    obtain ⟨configured, configuredMember, rfl, rfl⟩ := listed found
    obtain ⟨array, arrayMember, named, inside⟩ := Pipeline.mem_cells.mp member
    have key := (readable configured configuredMember).encodeKey arrayMember named inside
    have meant : (∅ : IntentStore).meant ⟨configured.device, cell⟩ = .reset cell := by
      rw [IntentStore.meant, IntentStore.lookup_empty, Option.elim_none]
    change configuration.simulator.cells.Placed _ _ _ ((∅ : IntentStore).meant _)
    rw [meant, simulator_eq]
    exact ⟨rfl, .reset, _, _, (Codec.encode_reset ..).trans key, rfl,
      Simulator.cells_ofDevices ..⟩

end Configuration

/-! ## What operations add up to -/

namespace Coordinator

section Performing

variable {Shadow Connection : Type} [ShadowStore Shadow] [Client Connection]
  {coordinator after : Coordinator Shadow Connection}

theorem Processed.counted {operation : Operation} {result : Except OperationError Unit}
    (ended : Processed coordinator operation result after) {pipeline : Pipeline}
    (found : coordinator.pipeline? operation.meter.device = some pipeline) :
    after.stats.operations = coordinator.stats.operations + 1 ∧
      after.stats.reconciliations = coordinator.stats.reconciliations := by
  cases ended with
  | unknown missing =>
      rw [found] at missing
      cases missing
  | unresolved _ _ => exact ⟨rfl, rfl⟩
  | skipped _ _ _ => exact ⟨rfl, rfl⟩
  | refused _ _ _ _ _ _ => exact ⟨rfl, rfl⟩
  | written _ _ _ _ _ => exact ⟨rfl, rfl⟩

theorem performAll_frame (coordinator : Coordinator Shadow Connection)
    {operations : List Operation}
    (known : ∀ operation ∈ operations, ∃ pipeline,
      coordinator.pipeline? operation.meter.device = some pipeline) :
    (coordinator.performAll operations).2.pipelines = coordinator.pipelines ∧
      (coordinator.performAll operations).2.intents =
        operations.foldl (IntentStore.after coordinator.pipelines) coordinator.intents ∧
      (coordinator.performAll operations).2.stats.operations =
        coordinator.stats.operations + operations.length ∧
      (coordinator.performAll operations).2.stats.reconciliations =
        coordinator.stats.reconciliations := by
  induction operations generalizing coordinator with
  | nil => exact ⟨rfl, rfl, rfl, rfl⟩
  | cons operation operations ih =>
      obtain ⟨⟨pipeline, found⟩, others⟩ := List.forall_mem_cons.mp known
      have ended := coordinator.processed operation
      obtain ⟨counted, uncounted⟩ := ended.counted found
      obtain ⟨pipelines, intents, total, untouched⟩ :=
        ih (coordinator.process operation).2 fun other member => by
          rw [pipeline?_congr ended.pipelines]
          exact others other member
      rw [ended.pipelines] at pipelines intents
      rw [ended.intents] at intents
      rw [counted, Nat.add_assoc, Nat.add_comm 1] at total
      rw [uncounted] at untouched
      exact ⟨pipelines, intents, total, untouched⟩

theorem reconcileAll_devices (coordinator : Coordinator Shadow Connection)
    (devices : List DeviceId) :
    (coordinator.reconcileAll devices).1.map (·.1) = devices := by
  induction devices generalizing coordinator with
  | nil => rfl
  | cons device devices ih =>
      rw [reconcileAll, List.map_cons, ih]

end Performing

end Coordinator

/-! ## What a configuration asks for -/

namespace ConfiguredDevice

/-- The operation removes, or its meter resolves. -/
def heeds (configured : ConfiguredDevice) (operation : ConfiguredOperation) : Bool :=
  operation.kind == .remove ||
    (configured.pipeline.resolve (operation.on configured.device).meter).isOk

/-- The last operation on a cell. Those that add or modify a meter that does not resolve are passed
over. -/
def lastOn (configured : ConfiguredDevice) (cell : CellId) : Option ConfiguredOperation :=
  (configured.operations.filter fun operation =>
    operation.cell = cell && configured.heeds operation).getLast?

/-- The last operation on a cell adds or modifies. -/
def asksFor (configured : ConfiguredDevice) (cell : CellId) : Bool :=
  (configured.lastOn cell).any fun operation => operation.kind != .remove

/-- The report shows the meters that are asked for, by array and index, each with the bands of its
last operation in order, and there was nothing to correct. -/
structure Shown (configured : ConfiguredDevice) (report : Report) : Prop where
  cells : report.meters.map (·.cell) = configured.pipeline.cells.filter configured.asksFor
  meters : ∀ meter ∈ report.meters, ∃ operation committed peak,
    configured.lastOn meter.cell = some operation ∧ committed.AtMost peak ∧
      meter = .seen configured.device meter.cell committed peak ∧
      meter.bands.Perm operation.bands
  cellsRead : report.cellsRead = (configured.pipeline.arrays.map (·.size.toNat)).sum
  reset : report.reset = 0
  resetFailed : report.resetFailed = 0
  undecodable : report.undecodable = 0

variable {configured : ConfiguredDevice} {pipelines : PipelineTable} {cell : CellId}

theorem settles_on (found : pipelines.get? configured.device = some configured.pipeline)
    (operation : ConfiguredOperation) :
    (operation.on configured.device).settles pipelines = configured.heeds operation := by
  rw [Operation.settles, ConfiguredOperation.on, found]
  rfl

/-- What is meant for a cell of a device is told from the last operation that the device heeds. -/
def Follows (configured : ConfiguredDevice) (pipelines : PipelineTable) (intents : IntentStore) :
    Prop :=
  ∀ cell, intents.lookup ⟨configured.device, cell⟩ =
    (configured.lastOn cell).bind fun operation =>
      (operation.on configured.device).intent? pipelines

variable {intents : IntentStore}

theorem isSome_lookup (found : pipelines.get? configured.device = some configured.pipeline)
    (follows : configured.Follows pipelines intents) (cell : CellId) :
    (intents.lookup ⟨configured.device, cell⟩).isSome = configured.asksFor cell := by
  rw [follows, asksFor]
  cases last : configured.lastOn cell with
  | none => rfl
  | some operation =>
      obtain ⟨_, counts⟩ := List.mem_filter.mp (List.mem_of_getLast? last)
      obtain ⟨_, heeded⟩ := Bool.and_eq_true_iff.mp counts
      rw [← settles_on found] at heeded
      have left := Operation.intent?_isSome_iff heeded
      rw [Option.bind_some, Option.any_some, Bool.eq_iff_iff, left]
      simp [ConfiguredOperation.on]

theorem of_lookup (follows : configured.Follows pipelines intents) {intent : Intent}
    (known : intents.lookup ⟨configured.device, cell⟩ = some intent) :
    ∃ operation first second, configured.lastOn cell = some operation ∧
      intent.config = .modify cell first second ∧
      operation.bands = [⟨.uncolored, first.rate, some first.burst⟩,
        ⟨.uncolored, second.rate, some second.burst⟩] := by
  rw [follows] at known
  obtain ⟨operation, last, left⟩ := Option.bind_eq_some_iff.mp known
  obtain ⟨_, counts⟩ := List.mem_filter.mp (List.mem_of_getLast? last)
  obtain ⟨sameCell, _⟩ := Bool.and_eq_true_iff.mp counts
  obtain ⟨_, _, resolved⟩ := Operation.of_intent? left
  obtain ⟨_, first, second, _, _, _, bands, _, _, config⟩ :=
    Pipeline.resolve_eq_ok_iff.mp resolved
  refine ⟨operation, first, second, last, ?_, bands⟩
  rw [config, ← of_decide_eq_true sameCell]
  rfl

/-- A cell that something is meant for is reported with the bands of its last operation. -/
theorem meter_of_lookup (follows : configured.Follows pipelines intents)
    (asked : (intents.lookup ⟨configured.device, cell⟩).isSome = true) :
    (intents.meant ⟨configured.device, cell⟩).cell = cell ∧
      ∃ operation committed peak, configured.lastOn cell = some operation ∧
        committed.AtMost peak ∧
        (intents.meant ⟨configured.device, cell⟩).observedMeter configured.device =
          .seen configured.device cell committed peak ∧
        (Meter.seen configured.device cell committed peak).bands.Perm operation.bands := by
  obtain ⟨intent, known⟩ := Option.isSome_iff_exists.mp asked
  obtain ⟨operation, first, second, last, config, bands⟩ := of_lookup follows known
  have meant : intents.meant ⟨configured.device, cell⟩ = .modify cell first second := by
    rw [IntentStore.meant, known, Option.elim_some, config]
  refine ⟨by rw [meant, CellConfig.modify_cell], operation, _, _, last,
    Band.order_atMost first second, by rw [meant]; rfl, ?_⟩
  rw [bands]
  obtain ordered | reversed := Band.atMost_total first second
  · rw [Band.order_of_atMost ordered]
    exact .refl _
  · rw [Band.order_of_atMost_swap reversed]
    exact .swap _ _ []

theorem shown_placedReport (found : pipelines.get? configured.device = some configured.pipeline)
    (follows : configured.Follows pipelines intents) :
    configured.Shown
      (Coordinator.placedReport intents configured.device configured.pipeline) := by
  have asked : (configured.pipeline.cells.filter fun cell =>
      (intents.lookup ⟨configured.device, cell⟩).isSome) =
        configured.pipeline.cells.filter configured.asksFor :=
    List.filter_congr fun cell _ => isSome_lookup found follows cell
  constructor
  · rw [Coordinator.placedReport, List.map_map, ← asked]
    refine (List.map_congr_left fun cell member => ?_).trans (List.map_id _)
    exact (meter_of_lookup follows (List.mem_filter.mp member).2).1
  · intro meter member
    obtain ⟨cell, cellMember, rfl⟩ := List.mem_map.mp member
    obtain ⟨sameCell, operation, committed, peak, last, ordered, seen, bands⟩ :=
      meter_of_lookup follows (List.mem_filter.mp cellMember).2
    rw [seen]
    exact ⟨operation, committed, peak, last, ordered, rfl, bands⟩
  · rfl
  · rfl
  · rfl
  · rfl

end ConfiguredDevice

namespace Configuration

variable {configuration : Configuration}

theorem filter_operations {devices : List ConfiguredDevice}
    (distinct : (devices.map (·.device)).Nodup) {configured : ConfiguredDevice}
    (member : configured ∈ devices) {keep : Operation → Bool}
    (own : ∀ operation, keep operation = true → operation.meter.device = configured.device) :
    (devices.flatMap (·.all)).filter keep = configured.all.filter keep := by
  have elsewhere (other : ConfiguredDevice) (differs : other.device ≠ configured.device) :
      other.all.filter keep = [] := by
    rw [List.filter_eq_nil_iff]
    intro operation listed kept
    obtain ⟨_, _, rfl⟩ := List.mem_map.mp listed
    exact differs (own _ kept)
  induction devices with
  | nil => cases member
  | cons first rest ih =>
      obtain ⟨fresh, restDistinct⟩ := List.nodup_cons.mp distinct
      rw [List.flatMap_cons, List.filter_append]
      obtain rfl | later := List.mem_cons.mp member
      · have others : (rest.flatMap (·.all)).filter keep = [] := by
          rw [List.filter_flatMap, List.flatMap_eq_nil_iff]
          intro other otherMember
          refine elsewhere other fun same => fresh ?_
          exact List.mem_map.mpr ⟨other, otherMember, same⟩
        rw [others, List.append_nil]
      · have apart : first.device ≠ configured.device := fun same =>
          fresh (List.mem_map.mpr ⟨configured, later, same.symm⟩)
        rw [elsewhere first apart, List.nil_append, ih restDistinct later]

theorem follows_operations (distinct : (configuration.devices.map (·.device)).Nodup)
    {configured : ConfiguredDevice} (member : configured ∈ configuration.devices) :
    configured.Follows configuration.pipelines
      (configuration.operations.foldl (IntentStore.after configuration.pipelines) ∅) := by
  intro cell
  have found := pipelines_get?_of_mem distinct member
  have last : lastSettled configuration.pipelines configuration.operations
      ⟨configured.device, cell⟩ =
        (configured.lastOn cell).map (·.on configured.device) := by
    have each (operation : ConfiguredOperation) :
        (decide ((operation.on configured.device).meter.handle = ⟨configured.device, cell⟩) &&
          (operation.on configured.device).settles configuration.pipelines) =
          (decide (operation.cell = cell) && configured.heeds operation) := by
      rw [ConfiguredDevice.settles_on found]
      simp [ConfiguredOperation.on, Meter.handle]
    rw [lastSettled, operations, filter_operations distinct member, ConfiguredDevice.all,
      List.filter_map, List.getLast?_map, ConfiguredDevice.lastOn]
    · have heeded := List.filter_congr fun operation
        (_ : operation ∈ configured.operations) => each operation
      exact congrArg (fun kept => kept.getLast?.map (·.on configured.device)) heeded
    · intro operation kept
      obtain ⟨sameHandle, _⟩ := Bool.and_eq_true_iff.mp kept
      exact congrArg CellHandle.device (of_decide_eq_true sameHandle)
  rw [IntentStore.lookup_foldl_after, last, IntentStore.lookup_empty]
  cases configured.lastOn cell <;> rfl

end Configuration

/-! ## The pass -/

namespace Daemon

theorem build_eq_ok_iff {configuration : Configuration} {interval : UInt64} {daemon : Daemon} :
    build configuration interval = .ok daemon ↔
      configuration.lockStripes ≤ LockPool.maxStripes ∧
        ofConfiguration configuration interval = daemon := by
  unfold build
  by_cases crowded : LockPool.maxStripes < configuration.lockStripes
  · simp [crowded, UInt64.not_le.mpr crowded]
  · simp [crowded, UInt64.not_lt.mp crowded]

/-- An agent starts, as the daemon with its operations performed, unless it has no interval or asks
for too many locks. -/
theorem start_eq_ok_iff {arguments : Arguments} {configuration : Configuration} {daemon : Daemon} :
    Agent.start arguments configuration = .ok daemon ↔
      ∃ interval ≠ 0, arguments.interval.getD configuration.interval = interval ∧
        configuration.lockStripes ≤ LockPool.maxStripes ∧
        ((ofConfiguration configuration interval).apply configuration.operations).2 = daemon := by
  unfold Agent.start
  by_cases unpaced : arguments.interval.getD configuration.interval = 0
  · simp [unpaced]
  · rw [if_neg unpaced, except_bind_eq_ok_iff]
    constructor
    · intro started
      obtain ⟨fresh, built, performed⟩ := started
      obtain ⟨pooled, rfl⟩ := build_eq_ok_iff.mp built
      exact ⟨_, unpaced, rfl, pooled, Except.ok.inj performed⟩
    · intro startable
      obtain ⟨_, _, rfl, pooled, rfl⟩ := startable
      exact ⟨_, build_eq_ok_iff.mpr ⟨pooled, rfl⟩, rfl⟩

theorem apply_operations {configuration : Configuration}
    (distinct : (configuration.devices.map (·.device)).Nodup)
    (readable : ∀ configured ∈ configuration.devices, configured.pipeline.Readable)
    (interval : UInt64) :
    let applied := ((ofConfiguration configuration interval).apply configuration.operations).2
    applied.coordinator.InPlace ∧
      applied.coordinator.pipelines = configuration.pipelines ∧
      (∀ configured ∈ configuration.devices,
        configured.Follows configuration.pipelines applied.coordinator.intents) ∧
      applied.coordinator.stats.operations = configuration.operations.length ∧
      applied.coordinator.stats.reconciliations = 0 := by
  intro applied
  have start := Configuration.inPlace_ofConfiguration distinct readable interval
  obtain ⟨pipelines, intents, operations, reconciliations⟩ :=
    (ofConfiguration configuration interval).coordinator.performAll_frame
      fun operation member => Configuration.exists_pipeline distinct member
  refine ⟨start.performAll configuration.operations, pipelines, ?_,
    operations.trans (Nat.zero_add _), reconciliations⟩
  intro configured member
  rw [show applied.coordinator.intents = _ from intents]
  exact Configuration.follows_operations distinct member

/-- Of an accepted configuration a daemon is built, unless it asks for too many locks, and it is
what an agent starts with. Once it has performed the operations of its configuration, a pass reports
once on every device, by ascending name, and shows exactly what the configuration asks for last. -/
theorem once_shows_configuration {configuration : Configuration}
    (accepted : configuration.fault? = none)
    (sized : ∀ configured ∈ configuration.devices, ∀ array ∈ configured.pipeline.arrays,
      array.size ≤ Codec.maxWireValue)
    (pooled : configuration.lockStripes ≤ LockPool.maxStripes) (interval : UInt64) :
    ∃ daemon, build configuration interval = .ok daemon ∧
      let applied := (daemon.apply configuration.operations).2
      let reports := applied.reconcileOnce.1
      let stats := applied.reconcileOnce.2.coordinator.stats
      (reports.map (·.1)).Perm (configuration.devices.map (·.device)) ∧
        (reports.map (·.1)).Pairwise (fun first second => compare first second = .lt) ∧
        (∀ entry ∈ reports, ∃ configured ∈ configuration.devices,
          configured.device = entry.1 ∧ configured.Shown entry.2) ∧
        stats.operations = configuration.operations.length ∧
        stats.reconciliations = configuration.devices.length ∧
        ∀ arguments : Arguments, arguments.interval.getD configuration.interval = interval →
          interval ≠ 0 → Agent.start arguments configuration = .ok applied := by
  have built : build configuration interval = .ok (ofConfiguration configuration interval) :=
    build_eq_ok_iff.mpr ⟨pooled, rfl⟩
  refine ⟨_, built, ?_⟩
  intro applied reports stats
  obtain ⟨_, _, distinct⟩ := Configuration.fault?_eq_none_iff.mp accepted
  obtain ⟨inPlace, samePipelines, follows, operations, reconciliations⟩ :=
    apply_operations distinct sized interval
  have devices : applied.coordinator.devices = configuration.pipelines.keys :=
    congrArg Std.TreeMap.keys samePipelines
  have keys := Configuration.keys_perm distinct
  have names : reports.map (·.1) = configuration.pipelines.keys :=
    (Coordinator.reconcileAll_devices ..).trans devices
  have listed {device : DeviceId} {pipeline : Pipeline} :
      applied.coordinator.pipeline? device = some pipeline ↔
        ∃ configured ∈ configuration.devices,
          configured.device = device ∧ configured.pipeline = pipeline := by
    rw [Coordinator.pipeline?, samePipelines]
    exact Configuration.pipelines_get?_iff distinct
  have known : ∀ device ∈ applied.coordinator.devices, ∃ pipeline,
      applied.coordinator.pipeline? device = some pipeline := by
    intro device member
    rw [devices, keys.mem_iff, List.mem_map] at member
    obtain ⟨configured, configuredMember, named⟩ := member
    exact ⟨_, listed.mpr ⟨configured, configuredMember, named, rfl⟩⟩
  obtain ⟨shown, counted⟩ := inPlace.reconcileAll known
  rw [names]
  refine ⟨keys, Std.TreeMap.ordered_keys, ?_, ?_, ?_, ?_⟩
  · intro entry member
    obtain ⟨pipeline, found, report⟩ := shown entry member
    obtain ⟨configured, configuredMember, named, rfl⟩ := listed.mp found
    refine ⟨configured, configuredMember, named, ?_⟩
    rw [report, ← named]
    exact ConfiguredDevice.shown_placedReport
      (Configuration.pipelines_get?_of_mem distinct configuredMember)
      (follows configured configuredMember)
  · exact (congrArg Stats.operations counted).trans operations
  · refine (congrArg Stats.reconciliations counted).trans ?_
    dsimp only
    rw [reconciliations, Nat.zero_add, devices, keys.length_eq, List.length_map]
  · intro arguments chosen paced
    exact start_eq_ok_iff.mpr ⟨interval, paced, chosen, pooled, rfl⟩

end Daemon

namespace Sample

def other : DeviceId := ⟨"c", by decide⟩

/-- Asks a cell of the array for two bands, the greater one first. -/
def asking (kind : OperationKind) (index rate : UInt64) : ConfiguredOperation :=
  ⟨kind, ⟨meter, index⟩, [⟨.uncolored, rate, some 50⟩, ⟨.uncolored, 100, some 10⟩], none⟩

/-- Of the first device one cell is asked for twice, one is given up, one is asked for in vain since
a rate is too large, and two operations are on cells that do not exist. Nothing is asked of the
second device, whose name comes first. -/
def configuration : Configuration where
  lockStripes := 16
  interval := 5000
  devices :=
    [⟨device, wide, [asking .add 0 1000, asking .add 1 1000, asking .modify 0 2000,
        asking .remove 1 0, asking .add 2 (2 ^ 63), asking .add 9 1000, asking .remove 9 0]⟩,
      ⟨other, pipeline, []⟩]

/-- Asks one cell for two bands, and asks for more locks than can be addressed. -/
def crowded : Configuration where
  lockStripes := 18446744073709551615
  interval := 5000
  devices := [⟨device, pipeline, [asking .add 0 1000]⟩]

/-- A command line that asks for one pass. -/
def once : Arguments where
  config := "agent.yaml"
  logLevel := "info"
  jsonLogs := false
  once := true
  interval := none

end Sample

namespace Daemon

theorem once_shows_sample :
    ∃ daemon, build Sample.configuration 5000 = .ok daemon ∧
      let applied := (daemon.apply Sample.configuration.operations).2
      applied.reconcileOnce.1.map (·.1) = [Sample.other, Sample.device] ∧
        (∀ entry ∈ applied.reconcileOnce.1, ∃ configured ∈ Sample.configuration.devices,
          configured.device = entry.1 ∧ configured.Shown entry.2) ∧
        applied.reconcileOnce.1.map (·.2.meters) =
          [[], [.seen Sample.device Sample.handle.cell ⟨100, 10⟩ ⟨2000, 50⟩]] ∧
        Agent.start Sample.once Sample.configuration = .ok applied := by
  have accepted : Sample.configuration.fault? = none := by decide +kernel
  have sized : ∀ configured ∈ Sample.configuration.devices, ∀ array ∈ configured.pipeline.arrays,
      array.size ≤ Codec.maxWireValue := by decide +kernel
  have pooled : Sample.configuration.lockStripes ≤ LockPool.maxStripes := by decide
  obtain ⟨daemon, built, _, _, shown, _, _, starts⟩ :=
    once_shows_configuration accepted sized pooled 5000
  obtain ⟨_, rfl⟩ := build_eq_ok_iff.mp built
  exact ⟨_, built, by decide +kernel, shown, by decide +kernel, starts _ rfl (by decide)⟩

/-- An accepted configuration with ordinary arrays may still ask for too many locks. Then there is
no daemon and no pass. -/
theorem crowded_configuration_unbuilt :
    Sample.crowded.fault? = none ∧
      (∀ configured ∈ Sample.crowded.devices, ∀ array ∈ configured.pipeline.arrays,
        array.size ≤ Codec.maxWireValue) ∧
      (∀ interval, build Sample.crowded interval = .error .tooManyLocks) ∧
      Agent.start Sample.once Sample.crowded = .error .tooManyLocks ∧
      StartError.tooManyLocks.exitCode = 101 :=
  ⟨by decide +kernel, by decide +kernel, fun _ => rfl, rfl, rfl⟩

end Daemon

end MeterSync
