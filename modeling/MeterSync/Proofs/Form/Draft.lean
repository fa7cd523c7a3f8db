import MeterSync.Form.Configuration
import MeterSync.Proofs.Form.RoundTrip

/-!
# Drafts

Names and pipelines are checked while they are read. A draft holds what a document says of arrays
and devices before any check: their names are any texts, and arrays are any list. A document is read
as a value exactly if it reads as the draft of that value, in JSON as in YAML.
-/

set_option autoImplicit false

namespace MeterSync

namespace Document

/-- What readings come to, from one state of the reader to another. -/
class Outcomes (Reading : Type → Type) [Monad Reading] [MonadLiftT Option Reading] where
  State : Type
  Yields {α : Type} : Reading α → State → α → State → Prop
  yields_pure {α : Type} {value result : α} {state after : State} :
    Yields (pure value) state result after ↔ value = result ∧ state = after
  yields_bind {α β : Type} {first : Reading α} {next : α → Reading β} {result : β}
    {state after : State} :
    Yields (first >>= next) state result after ↔
      ∃ value between, Yields first state value between ∧ Yields (next value) between result after
  yields_lift {α : Type} {option : Option α} {value : α} {state after : State} :
    Yields (liftM option) state value after ↔ option = some value ∧ state = after

open Outcomes

instance : Outcomes Option where
  State := Unit
  Yields read _ value _ := read = some value
  yields_pure := by simp
  yields_bind := by simp [Option.bind_eq_some_iff]
  yields_lift := by simp

/-- The places stay as they are, and references that were followed are counted. -/
instance : Outcomes Yaml.Reading where
  State := Yaml.Places × Nat
  Yields read state value after :=
    (read state.1).run state.2 = some (value, after.2) ∧ after.1 = state.1
  yields_pure := by
    rintro α value result ⟨places, left⟩ ⟨placesAfter, leftAfter⟩
    constructor
    · rintro ⟨⟨⟩, ⟨⟩⟩
      exact ⟨rfl, rfl⟩
    · rintro ⟨⟨⟩, ⟨⟩⟩
      exact ⟨rfl, rfl⟩
  yields_bind := by
    intro α β first next result state after
    constructor
    · rintro ⟨read, same⟩
      obtain ⟨⟨value, left⟩, found, later⟩ := Option.bind_eq_some_iff.mp read
      exact ⟨value, (state.1, left), ⟨found, rfl⟩, later, same⟩
    · rintro ⟨value, ⟨places, left⟩, ⟨found, rfl⟩, later, same⟩
      exact ⟨Option.bind_eq_some_iff.mpr ⟨(value, left), found, later⟩, same⟩
  yields_lift := by
    rintro α option value ⟨places, left⟩ ⟨placesAfter, leftAfter⟩
    cases option with
    | none =>
        constructor
        · rintro ⟨⟨⟩, _⟩
        · rintro ⟨⟨⟩, _⟩
    | some found =>
        constructor
        · rintro ⟨⟨⟩, ⟨⟩⟩
          exact ⟨rfl, rfl⟩
        · rintro ⟨⟨⟩, ⟨⟩⟩
          exact ⟨rfl, rfl⟩

variable {Δ α β : Type} {Reading : Type → Type} [Monad Reading] [MonadLiftT Option Reading]
  [Outcomes Reading]

/-- One reading comes to a value exactly where the other comes to its image. -/
def ReadsAs (read : Δ → Reading α) (draft : Δ → Reading β) (image : α → β) : Prop :=
  ∀ document state value after,
    Yields (read document) state value after ↔ Yields (draft document) state (image value) after

namespace ReadsAs

variable {read : Δ → Reading α} {draft : Δ → Reading β} {image : α → β}

/-- A check that passes exactly the images turns them into values. -/
theorem checked {check : β → Option α}
    (exact : ∀ {content value}, check content = some value ↔ content = image value) :
    ReadsAs (fun document => do check (← draft document)) draft image := by
  intro document state value after
  simp only [yields_bind, yields_lift, exact]
  constructor
  · rintro ⟨_, _, read, rfl, rfl⟩
    exact read
  · intro read
    exact ⟨_, _, read, rfl, rfl⟩

theorem required (reads : ReadsAs read draft image) (record : List (String × Δ)) (name : String)
    {state after : Outcomes.State Reading} {value : α} :
    Yields (required? record name read) state value after ↔
      Yields (required? record name draft) state (image value) after := by
  unfold required?
  cases record.lookup name with
  | none => simp [refuse, yields_lift]
  | some document => exact reads document state value after

theorem optional (reads : ReadsAs read draft image) {fallback : α}
    (unique : ∀ value, image value = image fallback → value = fallback)
    (record : List (String × Δ)) (name : String) {state after : Outcomes.State Reading}
    {value : α} :
    Yields (optional? record name fallback read) state value after ↔
      Yields (optional? record name (image fallback) draft) state (image value) after := by
  unfold optional?
  cases record.lookup name with
  | none =>
      simp only [yields_pure]
      constructor
      · rintro ⟨rfl, rfl⟩
        exact ⟨rfl, rfl⟩
      · rintro ⟨same, rfl⟩
        exact ⟨(unique value same.symm).symm, rfl⟩
  | some document => exact reads document state value after

theorem mapM [LawfulMonad Reading] (reads : ReadsAs read draft image) (documents : List Δ)
    {state after : Outcomes.State Reading} {values : List α} :
    Yields (documents.mapM read) state values after ↔
      Yields (documents.mapM draft) state (values.map image) after := by
  induction documents generalizing state values with
  | nil =>
      rw [List.mapM_nil, List.mapM_nil, yields_pure, yields_pure]
      cases values <;> simp
  | cons document documents ih =>
      simp only [List.mapM_cons, yields_bind, yields_pure]
      constructor
      · rintro ⟨value, between, first, values, _, later, rfl, rfl⟩
        exact ⟨_, between, (reads ..).mp first, _, _, ih.mp later, rfl, rfl⟩
      · rintro ⟨_, between, first, _, _, later, same, rfl⟩
        cases values with
        | nil => cases same
        | cons value values =>
            cases same
            exact ⟨value, between, (reads ..).mpr first, values, _, ih.mpr later, rfl, rfl⟩

theorem list [LawfulMonad Reading] [Document Δ Reading] (reads : ReadsAs read draft image) :
    ReadsAs (list? read) (list? draft) (List.map image) := by
  intro document state values after
  simp only [list?, yields_bind]
  constructor
  · rintro ⟨items, between, asked, read⟩
    exact ⟨items, between, asked, (reads.mapM items).mp read⟩
  · rintro ⟨items, between, asked, read⟩
    exact ⟨items, between, asked, (reads.mapM items).mpr read⟩

theorem optionalList [LawfulMonad Reading] [Document Δ Reading] (reads : ReadsAs read draft image)
    (record : List (String × Δ)) (name : String) {state after : Outcomes.State Reading}
    {values : List α} :
    Yields (optional? record name [] (list? read)) state values after ↔
      Yields (optional? record name [] (list? draft)) state (values.map image) after := by
  apply reads.list.optional
  intro values same
  exact List.map_eq_nil_iff.mp same

end ReadsAs

end Document

open Document Outcomes

section

variable {Δ : Type} {Reading : Type → Type} [Monad Reading] [MonadLiftT Option Reading]
  [Document Δ Reading]

/-! ## Drafts -/

/-- A meter array with a text for its name. -/
structure ArrayDraft where
  name : String
  wireId : UInt32
  size : UInt64
  unit : NativeUnit
deriving DecidableEq, Repr

/-- Meter arrays that may break rules. -/
structure PipelineDraft where
  arrays : List ArrayDraft
deriving DecidableEq, Repr

structure DeviceDraft where
  name : String
  pipeline : PipelineDraft
  operations : List ConfiguredOperation
deriving DecidableEq, Repr

structure ConfigurationDraft where
  lockStripes : UInt64
  interval : UInt64
  devices : List DeviceDraft
deriving DecidableEq, Repr

def MeterArray.draft (array : MeterArray) : ArrayDraft :=
  ⟨array.id.text, array.wireId, array.size, array.unit⟩

def Pipeline.draft (pipeline : Pipeline) : PipelineDraft :=
  ⟨pipeline.arrays.map (·.draft)⟩

def ConfiguredDevice.draft (configured : ConfiguredDevice) : DeviceDraft :=
  ⟨configured.device.text, configured.pipeline.draft, configured.operations⟩

def Configuration.draft (configuration : Configuration) : ConfigurationDraft :=
  ⟨configuration.lockStripes, configuration.interval, configuration.devices.map (·.draft)⟩

def ArrayDraft.read? (document : Δ) : Reading ArrayDraft := do
  let record ← record? ["id", "p4_id", "size", "unit"] document
  let name ← required? record "id" text?
  let wireId ← required? record "p4_id" half?
  let size ← required? record "size" whole?
  let unit ← optional? record "unit" .unspecified Keyword.read?
  return ⟨name, wireId, size, unit⟩

def PipelineDraft.read? (document : Δ) : Reading PipelineDraft := do
  let record ← record? ["meters"] document
  let arrays ← optional? record "meters" [] (list? ArrayDraft.read?)
  return ⟨arrays⟩

def DeviceDraft.read? (document : Δ) : Reading DeviceDraft := do
  let record ← record? ["id", "pipeline", "operations"] document
  let name ← required? record "id" text?
  let pipeline ← required? record "pipeline" PipelineDraft.read?
  let operations ← optional? record "operations" [] (list? ConfiguredOperation.read?)
  return ⟨name, pipeline, operations⟩

def ConfigurationDraft.read? (document : Δ) : Reading ConfigurationDraft := do
  let record ← record? ["lock_stripes", "reconcile_interval_ms", "devices"] document
  let lockStripes ← optional? record "lock_stripes" LockPool.defaultStripes whole?
  let interval ← optional? record "reconcile_interval_ms" Configuration.defaultInterval whole?
  let devices ← optional? record "devices" [] (list? DeviceDraft.read?)
  return ⟨lockStripes, interval, devices⟩

/-! ## Values and their drafts -/

theorem MeterId.ofText_toOption {text : String} {meter : MeterId} :
    (MeterId.ofText text).toOption = some meter ↔ text = meter.text := by
  constructor
  · intro named
    unfold MeterId.ofText at named
    split at named
    · cases named
      rfl
    · cases named
  · rintro rfl
    rw [MeterId.ofText_text]
    rfl

theorem DeviceId.ofText_toOption {text : String} {device : DeviceId} :
    (DeviceId.ofText text).toOption = some device ↔ text = device.text := by
  constructor
  · intro named
    unfold DeviceId.ofText at named
    split at named
    · cases named
      rfl
    · cases named
  · rintro rfl
    rw [DeviceId.ofText_text]
    rfl

theorem Pipeline.ofArrays_toOption {arrays : List MeterArray} {pipeline : Pipeline} :
    (Pipeline.ofArrays arrays).toOption = some pipeline ↔ arrays = pipeline.arrays := by
  constructor
  · intro built
    unfold Pipeline.ofArrays at built
    split at built
    · cases built
    · cases built
      rfl
  · rintro rfl
    rw [Pipeline.ofArrays_arrays]
    rfl

variable [Outcomes Reading]

theorem MeterId.readsAs : ReadsAs (MeterId.read? : Δ → Reading MeterId) text? MeterId.text :=
  .checked MeterId.ofText_toOption

theorem DeviceId.readsAs :
    ReadsAs (DeviceId.read? : Δ → Reading DeviceId) text? DeviceId.text :=
  .checked DeviceId.ofText_toOption

theorem MeterArray.readsAs :
    ReadsAs (MeterArray.read? : Δ → Reading MeterArray) ArrayDraft.read? MeterArray.draft := by
  intro document state array after
  simp only [MeterArray.read?, ArrayDraft.read?, yields_bind, yields_pure]
  constructor
  · rintro ⟨record, _, known, id, _, named, rest⟩
    obtain ⟨wireId, _, numbered, size, _, sized, unit, _, counted, rfl, rfl⟩ := rest
    exact ⟨record, _, known, _, _, (MeterId.readsAs.required record "id").mp named, wireId, _,
      numbered, size, _, sized, unit, _, counted, rfl, rfl⟩
  · rintro ⟨record, _, known, name, _, named, rest⟩
    obtain ⟨wireId, _, numbered, size, _, sized, unit, _, counted, same, rfl⟩ := rest
    cases array
    cases same
    exact ⟨record, _, known, _, _, (MeterId.readsAs.required record "id").mpr named, _, _,
      numbered, _, _, sized, _, _, counted, rfl, rfl⟩

variable [LawfulMonad Reading]

theorem Pipeline.readsAs :
    ReadsAs (Pipeline.read? : Δ → Reading Pipeline) PipelineDraft.read? Pipeline.draft := by
  intro document state pipeline after
  simp only [Pipeline.read?, PipelineDraft.read?, yields_bind, yields_pure, yields_lift,
    Pipeline.ofArrays_toOption]
  constructor
  · rintro ⟨record, _, known, _, _, arrays, rfl, rfl⟩
    exact ⟨record, _, known, _, _, (MeterArray.readsAs.optionalList record "meters").mp arrays,
      rfl, rfl⟩
  · rintro ⟨record, _, known, _, _, arrays, same, rfl⟩
    cases same
    exact ⟨record, _, known, _, _, (MeterArray.readsAs.optionalList record "meters").mpr arrays,
      rfl, rfl⟩

theorem ConfiguredDevice.readsAs :
    ReadsAs (ConfiguredDevice.read? : Δ → Reading ConfiguredDevice) DeviceDraft.read?
      ConfiguredDevice.draft := by
  intro document state configured after
  simp only [ConfiguredDevice.read?, DeviceDraft.read?, yields_bind, yields_pure]
  constructor
  · rintro ⟨record, _, known, _, _, named, _, _, arranged, operations, _, asked, rfl, rfl⟩
    exact ⟨record, _, known, _, _, (DeviceId.readsAs.required record "id").mp named, _, _,
      (Pipeline.readsAs.required record "pipeline").mp arranged, operations, _, asked, rfl, rfl⟩
  · rintro ⟨record, _, known, _, _, named, _, _, arranged, operations, _, asked, same, rfl⟩
    cases configured
    cases same
    exact ⟨record, _, known, _, _, (DeviceId.readsAs.required record "id").mpr named, _, _,
      (Pipeline.readsAs.required record "pipeline").mpr arranged, _, _, asked, rfl, rfl⟩

theorem Configuration.readsAs :
    ReadsAs (Configuration.read? : Δ → Reading Configuration) ConfigurationDraft.read?
      Configuration.draft := by
  intro document state configuration after
  simp only [Configuration.read?, ConfigurationDraft.read?, yields_bind, yields_pure]
  constructor
  · rintro ⟨record, _, known, stripes, _, locked, interval, _, timed, _, _, devices, rfl, rfl⟩
    exact ⟨record, _, known, stripes, _, locked, interval, _, timed, _, _,
      (ConfiguredDevice.readsAs.optionalList record "devices").mp devices, rfl, rfl⟩
  · rintro ⟨record, _, known, stripes, _, locked, interval, _, timed, _, _, devices, same, rfl⟩
    cases configuration
    cases same
    exact ⟨record, _, known, _, _, locked, _, _, timed, _, _,
      (ConfiguredDevice.readsAs.optionalList record "devices").mpr devices, rfl, rfl⟩

end

/-! ## Texts -/

section Texts

variable {α β : Type} {image : α → β}

theorem Json.readText?_eq_some_iff {read : Json → Option α} {draft : Json → Option β}
    (reads : ReadsAs read draft image) {text : String} {value : α} :
    readText? read text = some value ↔ readText? draft text = some (image value) := by
  unfold readText?
  cases parse text with
  | none => simp
  | some document => exact reads document () value ()

theorem Yaml.Reading.run_eq_some_iff {read : Node → Reading α} {draft : Node → Reading β}
    (reads : ReadsAs read draft image) {document : Node} {value : α} :
    run read document = some value ↔ run draft document = some (image value) := by
  unfold run
  simp only [Option.map_eq_some_iff, Prod.exists, exists_and_right, exists_eq_right]
  constructor
  · rintro ⟨left, found⟩
    exact ⟨left, ((reads document (_, _) value (_, left)).mp ⟨found, rfl⟩).1⟩
  · rintro ⟨left, found⟩
    exact ⟨left, ((reads document (_, _) value (_, left)).mpr ⟨found, rfl⟩).1⟩

end Texts

end MeterSync
