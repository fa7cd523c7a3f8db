import Mathlib.Data.Set.List
import MeterSync.Proofs.Daemon
import MeterSync.Proofs.PipelineRules

/-!
# What a configuration installs

A configuration that is accepted loses no device. Names are checked one by one while they are read,
arrays pipeline by pipeline, and devices against each other once all is read. If a daemon can then
be built, every device has its own pipeline, in the coordinator as in the simulator.
-/

set_option autoImplicit false

namespace MeterSync

theorem DeviceId.text_injective : Function.Injective DeviceId.text := by
  intro device other same
  cases device
  cases other
  cases same
  rfl

/-! ## Rules -/

/-- The settings are positive, and no two devices share a name. -/
structure Configuration.Sound (configuration : Configuration) : Prop where
  lockStripes : 0 < configuration.lockStripes
  interval : 0 < configuration.interval
  distinct : (configuration.devices.map (·.device)).Nodup

/-- All that a document has to keep to. -/
structure ConfigurationDraft.Admissible (draft : ConfigurationDraft) : Prop where
  lockStripes : 0 < draft.lockStripes
  interval : 0 < draft.interval
  marked : ∀ device ∈ draft.devices, isBlank device.name = false
  names : (draft.devices.map (·.name)).Nodup
  pipelines : ∀ device ∈ draft.devices, device.pipeline.Admissible

def ConfigurationDraft.ofYaml? (text : String) : Option ConfigurationDraft :=
  (Yaml.Node.parse text).bind (Yaml.Reading.run ConfigurationDraft.read?)

theorem ConfiguredDevice.exists_draft_iff {draft : DeviceDraft} :
    (∃ configured : ConfiguredDevice, configured.draft = draft) ↔
      isBlank draft.name = false ∧ draft.pipeline.Admissible := by
  constructor
  · rintro ⟨configured, rfl⟩
    exact ⟨configured.device.marked, configured.pipeline.draft_admissible⟩
  · rintro ⟨marked, admissible⟩
    obtain ⟨pipeline, arranged⟩ := Pipeline.exists_draft_iff.mpr admissible
    obtain ⟨name, _, operations⟩ := draft
    cases arranged
    exact ⟨⟨⟨name, marked⟩, pipeline, operations⟩, rfl⟩

namespace Configuration

variable {configuration accepted : Configuration} {text : String}

theorem sound_iff : configuration.Sound ↔ configuration.fault? = none := by
  rw [fault?_eq_none_iff]
  constructor
  · rintro ⟨lockStripes, interval, distinct⟩
    exact ⟨UInt64.pos_iff_ne_zero.mp lockStripes, UInt64.pos_iff_ne_zero.mp interval, distinct⟩
  · rintro ⟨lockStripes, interval, distinct⟩
    exact ⟨UInt64.pos_iff_ne_zero.mpr lockStripes, UInt64.pos_iff_ne_zero.mpr interval, distinct⟩

theorem checked_eq_ok_iff :
    configuration.checked = .ok accepted ↔ configuration = accepted ∧ configuration.Sound := by
  rw [sound_iff, checked]
  cases configuration.fault? <;> simp

theorem ofYaml_eq_ok_iff :
    ofYaml text = .ok configuration ↔
      ConfigurationDraft.ofYaml? text = some configuration.draft ∧ configuration.Sound := by
  have read : (Yaml.Node.parse text).bind (Yaml.Reading.run Configuration.read?) =
      some configuration ↔ ConfigurationDraft.ofYaml? text = some configuration.draft := by
    rw [ConfigurationDraft.ofYaml?, Option.bind_eq_some_iff, Option.bind_eq_some_iff]
    exact exists_congr fun document =>
      and_congr_right fun _ => Yaml.Reading.run_eq_some_iff Configuration.readsAs
  rw [← read, ofYaml]
  cases (Yaml.Node.parse text).bind (Yaml.Reading.run Configuration.read?) with
  | none => simp [ofRead]
  | some found =>
      rw [ofRead, checked_eq_ok_iff, Option.some.injEq]
      constructor
      · rintro ⟨rfl, sound⟩
        exact ⟨rfl, sound⟩
      · rintro ⟨rfl, sound⟩
        exact ⟨rfl, sound⟩

theorem Sound.draft_admissible (sound : configuration.Sound) :
    configuration.draft.Admissible := by
  constructor
  · exact sound.lockStripes
  · exact sound.interval
  · intro draft member
    obtain ⟨configured, _, rfl⟩ := List.mem_map.mp member
    exact configured.device.marked
  · have texts := sound.distinct.map DeviceId.text_injective
    rw [List.map_map] at texts
    rw [draft, List.map_map]
    exact texts
  · intro draft member
    obtain ⟨configured, _, rfl⟩ := List.mem_map.mp member
    exact configured.pipeline.draft_admissible

theorem exists_sound_draft_iff {draft : ConfigurationDraft} :
    (∃ configuration : Configuration, configuration.draft = draft ∧ configuration.Sound) ↔
      draft.Admissible := by
  constructor
  · rintro ⟨configuration, rfl, sound⟩
    exact sound.draft_admissible
  · rintro ⟨lockStripes, interval, marked, names, pipelines⟩
    have each : draft.devices ∈ Set.range (List.map ConfiguredDevice.draft) := by
      rw [Set.range_list_map]
      intro device member
      exact ConfiguredDevice.exists_draft_iff.mpr ⟨marked device member, pipelines device member⟩
    obtain ⟨devices, drafted⟩ := each
    refine ⟨⟨draft.lockStripes, draft.interval, devices⟩, ?_, lockStripes, interval, ?_⟩
    · rw [Configuration.draft, drafted]
    · rw [← drafted, List.map_map] at names
      refine List.Nodup.of_map DeviceId.text ?_
      rw [List.map_map]
      exact names

end Configuration

/-! ## Devices in place -/

/-- The sizes of the arrays of a pipeline, by wire id. -/
def Pipeline.layout (pipeline : Pipeline) (wireId : UInt32) : Option UInt64 :=
  (pipeline.arrayOfWireId? wireId).map (·.size)

theorem SimulatedDevice.size?_ofPipeline_eq (pipeline : Pipeline) :
    (ofPipeline pipeline).size? = pipeline.layout := by
  funext wireId
  refine Option.ext fun size => ?_
  rw [size?, Pipeline.layout, Option.map_eq_some_iff, Option.map_eq_some_iff]
  constructor
  · rintro ⟨array, found, rfl⟩
    obtain ⟨source, member, named, rfl⟩ | absent :=
      (get?_foldl_insert_iff pipeline.wireIds_distinct fun _ _ => by simp).mp found
    · exact ⟨source, Pipeline.arrayOfWireId?_eq_some_iff.mpr ⟨member, named⟩, rfl⟩
    · simp at absent
  · rintro ⟨source, found, rfl⟩
    obtain ⟨member, rfl⟩ := Pipeline.arrayOfWireId?_eq_some_iff.mp found
    exact Option.map_eq_some_iff.mp (size?_ofPipeline member)

namespace Configuration

variable {Shadow : Type} {configuration : Configuration}
  {coordinator : Coordinator Shadow Simulator}

/-- There are the configured devices and no others. The coordinator knows each by its own pipeline
and lists it once, in ascending order, however the names are collected; in the simulator it has the
arrays of that pipeline. -/
structure Installed (configuration : Configuration)
    (coordinator : Coordinator Shadow Simulator) : Prop where
  pipelines : ∀ device pipeline, coordinator.pipeline? device = some pipeline ↔
    ∃ configured ∈ configuration.devices,
      configured.device = device ∧ configured.pipeline = pipeline
  simulated : ∀ device,
    coordinator.connection.layout device = (coordinator.pipeline? device).map (·.layout)
  listed : coordinator.devices.Perm (configuration.devices.map (·.device))
  ascending : coordinator.devices.Pairwise fun first second => compare first second = .lt
  sorted : ∀ collected : List DeviceId, collected.Perm (configuration.devices.map (·.device)) →
    DeviceId.sort collected = coordinator.devices

theorem layout_simulator (distinct : (configuration.devices.map (·.device)).Nodup)
    (device : DeviceId) :
    configuration.simulator.layout device =
      (configuration.pipelines.get? device).map (·.layout) := by
  have placed : ((configuration.devices.map fun configured =>
      (configured.device, configured.pipeline)).map (·.1)).Nodup := by
    rw [List.map_map]
    exact distinct
  refine Option.ext fun layout => ?_
  rw [simulator_eq, Simulator.layout, Option.map_eq_some_iff, Option.map_eq_some_iff]
  constructor
  · rintro ⟨_, found, rfl⟩
    obtain ⟨pipeline, member, rfl⟩ := (Simulator.ofDevices_get?_iff placed).mp found
    obtain ⟨configured, configuredMember, ⟨⟩⟩ := List.mem_map.mp member
    exact ⟨_, pipelines_get?_of_mem distinct configuredMember,
      (SimulatedDevice.size?_ofPipeline_eq _).symm⟩
  · rintro ⟨pipeline, found, rfl⟩
    obtain ⟨configured, member, rfl, rfl⟩ := (pipelines_get?_iff distinct).mp found
    have known := (Simulator.ofDevices_get?_iff placed).mpr
      ⟨_, List.mem_map.mpr ⟨configured, member, rfl⟩, rfl⟩
    exact ⟨_, known, SimulatedDevice.size?_ofPipeline_eq _⟩

theorem Sound.installed (sound : configuration.Sound) {interval : UInt64} {daemon : Daemon}
    (built : Daemon.build configuration interval = .ok daemon) :
    configuration.Installed daemon.coordinator := by
  obtain ⟨_, rfl⟩ := Daemon.build_eq_ok_iff.mp built
  have listed := keys_perm sound.distinct
  constructor
  · intro device pipeline
    exact pipelines_get?_iff sound.distinct
  · exact layout_simulator sound.distinct
  · exact listed
  · exact Std.TreeMap.ordered_keys
  · intro collected permuted
    exact Coordinator.sort_eq_devices (permuted.trans listed.symm)

theorem cells_of_build {interval : UInt64} {daemon : Daemon}
    (built : Daemon.build configuration interval = .ok daemon) (device : DeviceId)
    (wireId : UInt32) (index : Int64) : daemon.coordinator.connection.cells device wireId index =
      none := by
  obtain ⟨_, rfl⟩ := Daemon.build_eq_ok_iff.mp built
  change configuration.simulator.cells device wireId index = none
  rw [simulator_eq]
  exact Simulator.cells_ofDevices ..

namespace Installed

theorem congr {after : Coordinator Shadow Simulator}
    (installed : configuration.Installed coordinator)
    (pipelines : after.pipelines = coordinator.pipelines)
    (layout : after.connection.layout = coordinator.connection.layout) :
    configuration.Installed after := by
  have same := Coordinator.pipeline?_congr pipelines
  have keys : after.devices = coordinator.devices := congrArg Std.TreeMap.keys pipelines
  constructor
  · intro device pipeline
    rw [same]
    exact installed.pipelines device pipeline
  · intro device
    rw [layout, same]
    exact installed.simulated device
  · rw [keys]
    exact installed.listed
  · rw [keys]
    exact installed.ascending
  · rw [keys]
    exact installed.sorted

theorem exists_pipeline (installed : configuration.Installed coordinator) {operation : Operation}
    (member : operation ∈ configuration.operations) :
    ∃ pipeline, coordinator.pipeline? operation.meter.device = some pipeline := by
  obtain ⟨configured, configuredMember, same⟩ := exists_configured member
  exact ⟨_, (installed.pipelines _ _).mpr ⟨configured, configuredMember, same, rfl⟩⟩

variable [ShadowStore Shadow]

/-- Whatever happens, no device goes. -/
theorem happen (installed : configuration.Installed coordinator) (event : Event) :
    configuration.Installed (coordinator.happen event) := by
  refine installed.congr (coordinator.happen_pipelines event) ?_
  cases event with
  | request request =>
      cases request with
      | process operation => exact (coordinator.processed operation).alike.layout
      | reconcile device => exact (coordinator.reconciled device).alike.layout
  | inject device wireId index config =>
      exact (coordinator.connection.inject_alike device wireId index config).layout
  | failWrites fail => rfl
  | failReads fail => rfl

theorem run (installed : configuration.Installed coordinator) (events : List Event) :
    configuration.Installed (coordinator.run events) :=
  Coordinator.run_induction installed fun _ event _ installed => installed.happen event

theorem not_noPipeline (installed : configuration.Installed coordinator) {operation : Operation}
    (member : operation ∈ configuration.operations) (missing : DeviceId) :
    (coordinator.process operation).1 ≠ .error (.noPipeline missing) := by
  obtain ⟨pipeline, found⟩ := installed.exists_pipeline member
  have ended := coordinator.processed operation
  generalize coordinator.process operation = processed at ended
  obtain ⟨result, after⟩ := processed
  rintro rfl
  cases ended with
  | unknown absent =>
      rw [found] at absent
      cases absent

end Installed

/-- A text is accepted exactly if its draft is admissible, and once it is read it is refused only
for a setting that is zero or a device that is named twice. Of an accepted text a daemon is built
exactly if it does not ask for too many locks. The daemon has every device that is written there, at
first with all cells in their default state, and keeps them whatever happens. No configured
operation ever fails for want of a pipeline. -/
theorem accepted_loses_no_device :
    (∀ text draft,
      (∃ configuration, ofYaml text = .ok configuration ∧ configuration.draft = draft) ↔
        ConfigurationDraft.ofYaml? text = some draft ∧ draft.Admissible) ∧
    (∀ configuration accepted : Configuration,
      configuration.checked = .ok accepted ↔ configuration = accepted ∧ configuration.Sound) ∧
    ∀ text configuration, ofYaml text = .ok configuration →
      configuration.Sound ∧
      (∀ configured ∈ configuration.devices,
        isBlank configured.device.text = false ∧ Pipeline.Sound configured.pipeline.arrays) ∧
      ∀ interval,
        ((∃ daemon, Daemon.build configuration interval = .ok daemon) ↔
          configuration.lockStripes ≤ LockPool.maxStripes) ∧
        ∀ daemon, Daemon.build configuration interval = .ok daemon →
          (∀ device wireId index,
            daemon.coordinator.connection.cells device wireId index = none) ∧
          ∀ events,
            configuration.Installed (daemon.coordinator.run events) ∧
            ∀ operation ∈ configuration.operations,
              (∃ pipeline, (daemon.coordinator.run events).pipeline? operation.meter.device =
                some pipeline) ∧
              ∀ missing, ((daemon.coordinator.run events).process operation).1 ≠
                .error (.noPipeline missing) := by
  refine ⟨?_, fun _ _ => checked_eq_ok_iff, ?_⟩
  · intro text draft
    constructor
    · rintro ⟨configuration, accepted, rfl⟩
      obtain ⟨read, sound⟩ := ofYaml_eq_ok_iff.mp accepted
      exact ⟨read, sound.draft_admissible⟩
    · rintro ⟨read, admissible⟩
      obtain ⟨configuration, rfl, sound⟩ := exists_sound_draft_iff.mpr admissible
      exact ⟨configuration, ofYaml_eq_ok_iff.mpr ⟨read, sound⟩, rfl⟩
  · intro text configuration accepted
    obtain ⟨_, sound⟩ := ofYaml_eq_ok_iff.mp accepted
    refine ⟨sound, ?_, ?_⟩
    · intro configured _
      exact ⟨configured.device.marked, configured.pipeline.sound⟩
    · intro interval
      constructor
      · constructor
        · rintro ⟨_, built⟩
          exact (Daemon.build_eq_ok_iff.mp built).1
        · intro pooled
          exact ⟨_, Daemon.build_eq_ok_iff.mpr ⟨pooled, rfl⟩⟩
      · intro daemon built
        refine ⟨cells_of_build built, fun events => ?_⟩
        have installed := (sound.installed built).run events
        exact ⟨installed, fun operation member =>
          ⟨installed.exists_pipeline member, installed.not_noPipeline member⟩⟩

end Configuration

namespace Sample

/-- The device with a cell to clear, and a device without arrays. -/
def setup : Configuration where
  lockStripes := 30
  interval := 5000
  devices :=
    [⟨device, pipeline, [⟨.remove, handle.cell, [], none⟩]⟩,
      ⟨other, ⟨[], by decide, by decide, by decide⟩, []⟩]

def setupText : String :=
  "devices:\n" ++
  "- id: d\n" ++
  "  pipeline:\n" ++
  "    meters:\n" ++
  "    - id: m\n" ++
  "      p4_id: 5\n" ++
  "      size: 1\n" ++
  "      unit: BYTES\n" ++
  "  operations:\n" ++
  "  - op: REMOVE\n" ++
  "    meter_id: m\n" ++
  "    index: 0\n" ++
  "- id: c\n" ++
  "  pipeline: \x7b\x7d\n"

/-- A device that is read well, with a setting for more locks than can be addressed. -/
def crowdedText : String :=
  "lock_stripes: 18446744073709551615\n" ++
  "devices:\n" ++
  "- id: c\n" ++
  "  pipeline:\n"

end Sample

namespace Configuration

theorem accepted_loses_no_device_setup :
    ofYaml Sample.setupText = .ok Sample.setup ∧ Sample.setup.Sound ∧
      ∃ daemon, Daemon.build Sample.setup 5000 = .ok daemon ∧
        Sample.setup.Installed daemon.coordinator ∧
        daemon.coordinator.devices = [Sample.other, Sample.device] ∧
        ∀ operation ∈ Sample.setup.operations,
          ∃ pipeline, (daemon.coordinator.run
            [.failReads true, .request (.reconcile Sample.other)]).pipeline?
              operation.meter.device = some pipeline := by
  have accepted : ofYaml Sample.setupText = .ok Sample.setup := by decide +kernel
  obtain ⟨_, _, installed⟩ := accepted_loses_no_device
  obtain ⟨sound, _, started⟩ := installed _ _ accepted
  obtain ⟨buildable, keeps⟩ := started 5000
  obtain ⟨daemon, built⟩ := buildable.mpr (by decide)
  obtain ⟨_, later⟩ := keeps daemon built
  refine ⟨accepted, sound, daemon, built, (later []).1, ?_, ?_⟩
  · obtain ⟨_, rfl⟩ := Daemon.build_eq_ok_iff.mp built
    decide +kernel
  · exact fun operation member => ((later _).2 operation member).1

/-- An accepted text may still ask for too many locks, and then its device is nowhere: no daemon is
built, and the agent ends without output. -/
theorem crowded_text_unbuilt :
    ∃ configuration, ofYaml Sample.crowdedText = .ok configuration ∧
      configuration.devices.map (·.device) = [Sample.other] ∧
      (∀ interval, Daemon.build configuration interval = .error .tooManyLocks) ∧
      Agent.run Sample.once (some Sample.crowdedText) = .exit 101 "" := by
  have accepted : ofYaml Sample.crowdedText = .ok
      ⟨18446744073709551615, 5000,
        [⟨Sample.other, ⟨[], by decide, by decide, by decide⟩, []⟩]⟩ := by
    decide +kernel
  refine ⟨_, accepted, rfl, fun _ => rfl, ?_⟩
  rw [Agent.run, Option.map_some, accepted]
  rfl

end Configuration

end MeterSync
