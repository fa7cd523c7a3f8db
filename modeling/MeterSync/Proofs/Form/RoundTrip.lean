import MeterSync.Form.Pipeline
import MeterSync.Json.RoundTrip

/-!
# Values and their texts

What is written as JSON reads back as the same value, whatever the names, numbers and lists in it
are, and wherever its text breaks lines.
-/

set_option autoImplicit false

namespace MeterSync

open Document

namespace Json

variable {α : Type} {write : α → Json} {read : Json → Option α}

/-! ## Values without members -/

@[simp] theorem text?_text (value : String) : Document.text? (text value) = some value := rfl

@[simp] theorem flag?_bool (value : Bool) : (Json.bool value).flag? = some value := rfl

@[simp] theorem whole?_natural (number : UInt64) : whole? (natural number.toNat) = some number := by
  have small : number.toNat < UInt64.size := number.toNat_lt
  change (if number.toNat < UInt64.size then some (UInt64.ofNat number.toNat) else none) = _
  rw [if_pos small, UInt64.ofNat_toNat]

@[simp] theorem half?_natural (number : UInt32) : half? (natural number.toNat) = some number := by
  have small : number.toNat < UInt32.size := number.toNat_lt
  change (if number.toNat < UInt32.size then some (UInt32.ofNat number.toNat) else none) = _
  rw [if_pos small, UInt32.ofNat_toNat]

@[simp] theorem byte?_natural (number : UInt8) : byte? (natural number.toNat) = some number := by
  have small : number.toNat < UInt8.size := number.toNat_lt
  change (if number.toNat < UInt8.size then some (UInt8.ofNat number.toNat) else none) = _
  rw [if_pos small, UInt8.ofNat_toNat]

theorem list?_array (back : ∀ value, read (write value) = some value) (values : List α) :
    list? read (.array (values.map write)) = some values := by
  change (values.map write).mapM read = some values
  induction values with
  | nil => rfl
  | cons value values ih =>
      rw [List.map_cons, List.mapM_cons, back value, ih]
      rfl

theorem nullable?_nullable (back : ∀ value, read (write value) = some value)
    (filled : ∀ value, (write value).isNull = false) (value : Option α) :
    nullable? read (nullable write value) = some value := by
  cases value with
  | none => rfl
  | some value =>
      change (if (write value).isNull then some none
        else (read (write value)).bind fun value => some (some value)) = some (some value)
      rw [filled value, back value]
      rfl

/-! ## Records -/

theorem named?_members (members : List (String × Json)) :
    (named? ((members.map fun member => (some member.1, member.2)).map fun member =>
      (Json.string member.1, member.2)) : Option (List (String × Json))) = some members := by
  unfold named?
  induction members with
  | nil => rfl
  | cons member members ih =>
      rw [List.map_cons, List.map_cons, List.mapM_cons, ih]
      rfl

theorem record?_record (names : List String) {members : List (String × Json)}
    (distinct : (members.map (·.1)).Nodup) : record? names (record members) = some members := by
  have known : ((members.map (·.1)).filter (· ∈ names)).Nodup := distinct.filter _
  change ((named? ((members.map fun member => (some member.1, member.2)).map fun member =>
      (Json.string member.1, member.2))).bind fun record =>
    if ((record.map (·.1)).filter (· ∈ names)).Nodup then some record else none) = some members
  rw [named?_members]
  exact if_pos known

section Members

variable {members : List (String × Json)} {name other : String} {content : Json} {fallback : α}

@[simp] theorem required?_first :
    required? ((name, content) :: members) name read = read content := by
  rw [required?, List.lookup_cons_self]

@[simp] theorem required?_later (different : name ≠ other) :
    required? ((other, content) :: members) name read = required? members name read := by
  rw [required?, required?, List.lookup_cons, beq_false_of_ne different]

@[simp] theorem optional?_first :
    optional? ((name, content) :: members) name fallback read = read content := by
  rw [optional?, List.lookup_cons_self]

@[simp] theorem optional?_later (different : name ≠ other) :
    optional? ((other, content) :: members) name fallback read =
      optional? members name fallback read := by
  rw [optional?, optional?, List.lookup_cons, beq_false_of_ne different]

end Members

end Json

open Json

/-! ## Identifiers and keywords -/

@[simp] theorem DeviceId.read?_toJson (device : DeviceId) :
    DeviceId.read? device.toJson = some device := by
  change (DeviceId.ofText device.text).toOption = some device
  rw [DeviceId.ofText_text]
  rfl

@[simp] theorem MeterId.read?_toJson (meter : MeterId) :
    MeterId.read? meter.toJson = some meter := by
  change (MeterId.ofText meter.text).toOption = some meter
  rw [MeterId.ofText_text]
  rfl

@[simp] theorem CellId.read?_toJson (cell : CellId) : CellId.read? cell.toJson = some cell := by
  simp [CellId.read?, CellId.toJson, record?_record]

@[simp] theorem CellHandle.read?_toJson (handle : CellHandle) :
    CellHandle.read? handle.toJson = some handle := by
  simp [CellHandle.read?, CellHandle.toJson, record?_record]

@[simp] theorem Keyword.read?_toJson {α : Type} [Keyword α] (value : α) :
    Keyword.read? (Keyword.toJson value) = some value :=
  Keyword.ofWord?_word value

/-! ## Cells -/

@[simp] theorem Band.read?_toJson (band : Band) : Band.read? band.toJson = some band := by
  simp [Band.read?, Band.toJson, record?_record]

namespace Json

theorem isKept_natural (room : Nat) (number : UInt64) :
    (natural number.toNat).isKept room = true := by
  have small : number.toNat < UInt64.size := number.toNat_lt
  change isFiniteDecimal number.toNat 0 = true
  rw [isFiniteDecimal, leading, if_pos small]
  simp

end Json

theorem Band.isKept_toJson (band : Band) (room : Nat) : band.toJson.isKept (room + 1) = true := by
  simp [Band.toJson, record, isKept, areMembersKept, isKept_natural]

theorem CellState.isKept_toJson (state : CellState) (room : Nat) :
    state.toJson.isKept (room + 2) = true := by
  cases state with
  | reset => rfl
  | modify committed peak =>
      simp [CellState.toJson, record, isKept, areMembersKept, Band.isKept_toJson, text]

/-- A state has two levels, and is read wherever there is room for them. -/
theorem CellState.read?_toJson {room : Nat} (enough : 2 ≤ room) (state : CellState) :
    CellState.read? room state.toJson = some state := by
  obtain ⟨spare, rfl⟩ := Nat.exists_eq_add_of_le' enough
  unfold CellState.read?
  rw [if_pos (state.isKept_toJson spare)]
  cases state with
  | reset => simp [toJson, record, ofTagged?]
  | modify committed peak =>
      -- Without its tag the record is one of two bands.
      have content : ofTagged? "modify"
          (record [("committed", committed.toJson), ("peak", peak.toJson)]) =
            some (.modify committed peak) := by
        simp [ofTagged?, record?_record]
      simpa [toJson, record] using content

@[simp] theorem CellConfig.read?_toJson (config : CellConfig) :
    CellConfig.read? config.toJson = some config := by
  have enough : 2 ≤ maxHeight - 1 := by decide
  simp [CellConfig.read?, CellConfig.toJson, record?_record, CellState.read?_toJson enough]

/-! ## Meters -/

@[simp] theorem MeterBand.read?_toJson (band : MeterBand) :
    MeterBand.read? band.toJson = some band := by
  have burst := nullable?_nullable whole?_natural (fun _ => rfl) band.burst
  simp [MeterBand.read?, MeterBand.toJson, record?_record, burst]

@[simp] theorem Meter.read?_toJson (meter : Meter) : Meter.read? meter.toJson = some meter := by
  have bands := list?_array MeterBand.read?_toJson meter.bands
  have unit := nullable?_nullable Keyword.read?_toJson (fun _ => rfl) meter.unit
  simp [Meter.read?, Meter.toJson, record?_record, bands, unit]

/-! ## Pipelines -/

@[simp] theorem MeterArray.read?_toJson (array : MeterArray) :
    MeterArray.read? array.toJson = some array := by
  simp [MeterArray.read?, MeterArray.toJson, record?_record]

theorem Pipeline.ofArrays_arrays (pipeline : Pipeline) :
    Pipeline.ofArrays pipeline.arrays = .ok pipeline := by
  have sound : firstFault? [] pipeline.arrays = none :=
    firstFault?_eq_none_iff.mpr ⟨pipeline.sizes_positive, ⟨pipeline.ids_distinct, by simp⟩,
      pipeline.wireIds_distinct, by simp⟩
  unfold ofArrays
  split
  · rename_i error broken
    rw [sound] at broken
    cases broken
  · rfl

@[simp] theorem Pipeline.read?_toJson (pipeline : Pipeline) :
    Pipeline.read? pipeline.toJson = some pipeline := by
  have arrays := list?_array MeterArray.read?_toJson pipeline.arrays
  have sound := pipeline.ofArrays_arrays
  simp [Pipeline.read?, Pipeline.toJson, record?_record, arrays, sound, Except.toOption]

@[simp] theorem KeywordSet.read?_toJson {α : Type} [DecidableEq α] [Keyword α]
    (set : KeywordSet α) : KeywordSet.read? set.toJson = some set := by
  have values := list?_array Keyword.read?_toJson set.toList
  simp [KeywordSet.read?, KeywordSet.toJson, values, KeywordSet.ofList_toList]

@[simp] theorem Features.read?_toJson (features : Features) :
    Features.read? features.toJson = some features := by
  simp [Features.read?, Features.toJson, record?_record]

/-! ## Texts -/

namespace Json

variable {α : Type}

/-- The value that a text stands for, if it is accepted. -/
def readText? (read : Json → Option α) (text : String) : Option α :=
  (parse text).bind read

/-- Every value is read from its text, and what an accepted text stands for is the same after it was
written again, under whatever layout. -/
structure RoundTrips (write : α → Json) (read : Json → Option α) : Prop where
  written : ∀ layout : Layout, layout.Blank → ∀ value,
    readText? read ((write value).print layout) = some value
  rewritten : ∀ layout : Layout, layout.Blank → ∀ text value, readText? read text = some value →
    readText? read ((write value).print layout) = readText? read text

theorem RoundTrips.of_reads_back {write : α → Json} {read : Json → Option α}
    (back : ∀ value, read (write value) = some value) : RoundTrips write read := by
  have written (layout : Layout) (blank : layout.Blank) (value : α) :
      readText? read ((write value).print layout) = some value := by
    rw [readText?, parse_print blank]
    exact back value
  refine ⟨written, ?_⟩
  intro layout blank text value accepted
  rw [written layout blank value, accepted]

end Json

/-- Everything that is written as JSON reads back as it was: names of any characters, numbers of the
full range of their type, lists and sets of any length, and bands in either order. -/
theorem texts_round_trip :
    RoundTrips DeviceId.toJson DeviceId.read? ∧
      RoundTrips MeterId.toJson MeterId.read? ∧
      RoundTrips CellId.toJson CellId.read? ∧
      RoundTrips CellHandle.toJson CellHandle.read? ∧
      RoundTrips Band.toJson Band.read? ∧
      RoundTrips CellState.toJson (CellState.read? maxHeight) ∧
      RoundTrips CellConfig.toJson CellConfig.read? ∧
      RoundTrips MeterBand.toJson MeterBand.read? ∧
      RoundTrips Meter.toJson Meter.read? ∧
      RoundTrips Features.toJson Features.read? ∧
      RoundTrips MeterArray.toJson MeterArray.read? ∧
      RoundTrips Pipeline.toJson Pipeline.read? :=
  ⟨.of_reads_back DeviceId.read?_toJson, .of_reads_back MeterId.read?_toJson,
    .of_reads_back CellId.read?_toJson, .of_reads_back CellHandle.read?_toJson,
    .of_reads_back Band.read?_toJson, .of_reads_back (CellState.read?_toJson (by decide)),
    .of_reads_back CellConfig.read?_toJson, .of_reads_back MeterBand.read?_toJson,
    .of_reads_back Meter.read?_toJson, .of_reads_back Features.read?_toJson,
    .of_reads_back MeterArray.read?_toJson, .of_reads_back Pipeline.read?_toJson⟩

/-- A cell whose greater band comes first, in an array whose name takes escapes. -/
def unorderedConfig : CellConfig where
  cell := ⟨⟨"a\"\\\n\x01é😀", by decide⟩, 18446744073709551615⟩
  state := .modify ⟨5, 0⟩ ⟨1, 18446744073709551615⟩

/-- A cell given by position, with the greater band first again. -/
def positionalText : String :=
  "[[\"a\",7],[\"modify\",[5,0],[1,2]]]"

theorem unordered_config_round_trips :
    readText? CellConfig.read? (unorderedConfig.toJson.print .compact) = some unorderedConfig ∧
      ∃ value, readText? CellConfig.read? positionalText = some value ∧
        value.state = .modify ⟨5, 0⟩ ⟨1, 2⟩ ∧
        readText? CellConfig.read? (value.toJson.print .indented) =
          readText? CellConfig.read? positionalText := by
  obtain ⟨_, _, _, _, _, _, configs, _⟩ := texts_round_trip
  have accepted : readText? CellConfig.read? positionalText =
      some ⟨⟨⟨"a", by decide⟩, 7⟩, .modify ⟨5, 0⟩ ⟨1, 2⟩⟩ := by
    decide +kernel
  exact ⟨configs.written .compact Layout.blank_compact unorderedConfig, _, accepted, rfl,
    configs.rewritten .indented Layout.blank_indented positionalText _ accepted⟩

end MeterSync
