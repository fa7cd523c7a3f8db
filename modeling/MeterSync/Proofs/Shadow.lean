import MeterSync.Shadow

/-!
# What a shadow shows

Both shadows keep what they are given, save that one of them loses a fixed set of cells. After
recording a list, a cell that is not lost shows the last configuration of the list that is for it.
-/

set_option autoImplicit false

namespace MeterSync

/-- A shadow that keeps what it is given, except for a fixed set of cells. -/
class LawfulShadow (Shadow : Type) [ShadowStore Shadow] where
  loses : Shadow → CellHandle → Bool
  loses_put : ∀ (shadow : Shadow) (handle : CellHandle) (config : CellConfig),
    loses (ShadowStore.put shadow handle config) = loses shadow
  find?_put : ∀ (shadow : Shadow) (handle other : CellHandle) (config : CellConfig),
    ShadowStore.find? (ShadowStore.put shadow handle config) other =
      if handle = other ∧ loses shadow handle = false then some config
      else ShadowStore.find? shadow other

instance : LawfulShadow ShadowTable where
  loses _ _ := false
  loses_put _ _ _ := rfl
  find?_put shadow handle other config := by
    simp only [and_true]
    exact CellTable.find?_put shadow handle other config

instance : LawfulShadow LossyShadow where
  loses shadow := shadow.loses
  loses_put shadow handle config := by
    simp only [ShadowStore.put]
    split <;> rfl
  find?_put shadow handle other config := by
    by_cases lost : shadow.loses handle = true
    · simp [ShadowStore.put, ShadowStore.find?, lost]
    · simp [ShadowStore.put, ShadowStore.find?, lost, CellTable.find?_put]

/-- The last of some configurations that is for a cell. -/
def CellConfig.latest? (configs : List CellConfig) (cell : CellId) : Option CellConfig :=
  configs.reverse.find? fun config => config.cell = cell

namespace CellConfig

@[simp] theorem latest?_nil (cell : CellId) : latest? [] cell = none := rfl

theorem latest?_cons (config : CellConfig) (configs : List CellConfig) (cell : CellId) :
    latest? (config :: configs) cell =
      (latest? configs cell).or (if config.cell = cell then some config else none) := by
  by_cases here : config.cell = cell <;> simp [latest?, List.find?_append, here]

theorem latest?_mem {configs : List CellConfig} {cell : CellId} {config : CellConfig}
    (last : latest? configs cell = some config) : config ∈ configs ∧ config.cell = cell :=
  ⟨List.mem_reverse.mp (List.mem_of_find?_eq_some last), by simpa using List.find?_some last⟩

theorem latest?_eq_none_iff {configs : List CellConfig} {cell : CellId} :
    latest? configs cell = none ↔ ∀ config ∈ configs, config.cell ≠ cell := by
  simp [latest?]

end CellConfig

namespace ShadowStore

variable {Shadow : Type} [ShadowStore Shadow]

theorem holds_iff {shadow : Shadow} {handle : CellHandle} {config : CellConfig} :
    holds shadow handle config = true ↔ find? shadow handle = some config := by
  simp [holds]

theorem record_cons (shadow : Shadow) (device : DeviceId) (config : CellConfig)
    (configs : List CellConfig) :
    record shadow device (config :: configs) =
      record (put shadow (config.handle device) config) device configs := rfl

theorem record_concat (shadow : Shadow) (device : DeviceId) (configs : List CellConfig)
    (config : CellConfig) :
    record shadow device (configs ++ [config]) =
      put (record shadow device configs) (config.handle device) config :=
  List.foldl_append

variable [LawfulShadow Shadow]

theorem find?_put_lost {shadow : Shadow} {other : CellHandle}
    (lost : LawfulShadow.loses shadow other = true) (handle : CellHandle) (config : CellConfig) :
    find? (put shadow handle config) other = find? shadow other := by
  rw [LawfulShadow.find?_put]
  refine if_neg ?_
  intro here
  rcases here with ⟨rfl, kept⟩
  rw [lost] at kept
  cases kept

theorem loses_record (shadow : Shadow) (device : DeviceId) (configs : List CellConfig) :
    LawfulShadow.loses (record shadow device configs) = LawfulShadow.loses shadow := by
  induction configs generalizing shadow with
  | nil => rfl
  | cons config configs ih => rw [record_cons, ih, LawfulShadow.loses_put]

theorem find?_record (shadow : Shadow) (device : DeviceId) (configs : List CellConfig)
    (handle : CellHandle) :
    find? (record shadow device configs) handle =
      if handle.device = device ∧ LawfulShadow.loses shadow handle = false then
        (CellConfig.latest? configs handle.cell).or (find? shadow handle)
      else find? shadow handle := by
  induction configs generalizing shadow with
  | nil => simp [record]
  | cons config configs ih =>
      rw [record_cons, ih, LawfulShadow.loses_put, LawfulShadow.find?_put,
        CellConfig.latest?_cons]
      obtain ⟨handleDevice, cell⟩ := handle
      by_cases own : handleDevice = device
      · subst own
        by_cases here : config.cell = cell
        · subst here
          cases lost : LawfulShadow.loses shadow ⟨handleDevice, config.cell⟩ <;>
            simp [CellConfig.handle, lost]
        · simp [CellConfig.handle, here]
      · have elsewhere : device ≠ handleDevice := fun same => own same.symm
        simp [CellConfig.handle, own, elsewhere]

theorem find?_record_lost {shadow : Shadow} {handle : CellHandle}
    (lost : LawfulShadow.loses shadow handle = true) (device : DeviceId)
    (configs : List CellConfig) :
    find? (record shadow device configs) handle = find? shadow handle := by
  rw [find?_record, if_neg (by simp [lost])]

theorem find?_record_kept {shadow : Shadow} {device : DeviceId} {cell : CellId}
    (kept : LawfulShadow.loses shadow ⟨device, cell⟩ = false) (configs : List CellConfig) :
    find? (record shadow device configs) ⟨device, cell⟩ =
      (CellConfig.latest? configs cell).or (find? shadow ⟨device, cell⟩) := by
  rw [find?_record, if_pos ⟨rfl, kept⟩]

theorem find?_record_elsewhere {device : DeviceId} {configs : List CellConfig}
    {handle : CellHandle} (elsewhere : ∀ config ∈ configs, config.handle device ≠ handle)
    (shadow : Shadow) : find? (record shadow device configs) handle = find? shadow handle := by
  rw [find?_record]
  by_cases own : handle.device = device
  · have absent : CellConfig.latest? configs handle.cell = none := by
      rw [CellConfig.latest?_eq_none_iff]
      rintro config member same
      apply elsewhere config member
      rw [CellConfig.handle, same, ← own]
    rw [absent, Option.none_or, ite_self]
  · rw [if_neg fun both => own both.1]

/-- Of a cell that it does not lose, the shadow shows the reset if one is recorded. -/
theorem find?_record_resets {shadow : Shadow} {device : DeviceId} {configs : List CellConfig}
    (resets : ∀ config ∈ configs, config = .reset config.cell) {cell : CellId}
    (kept : LawfulShadow.loses shadow ⟨device, cell⟩ = false) :
    find? (record shadow device configs) ⟨device, cell⟩ =
      if .reset cell ∈ configs then some (.reset cell) else find? shadow ⟨device, cell⟩ := by
  rw [find?_record_kept kept]
  by_cases member : CellConfig.reset cell ∈ configs
  · rw [if_pos member]
    cases last : CellConfig.latest? configs cell with
    | none => exact absurd rfl (CellConfig.latest?_eq_none_iff.mp last _ member)
    | some config =>
        obtain ⟨configMember, sameCell⟩ := CellConfig.latest?_mem last
        rw [resets config configMember, sameCell, Option.some_or]
  · have absent : CellConfig.latest? configs cell = none := by
      rw [CellConfig.latest?_eq_none_iff]
      intro config configMember same
      subst same
      exact member (resets config configMember ▸ configMember)
    rw [if_neg member, absent, Option.none_or]

end ShadowStore

end MeterSync
