import MeterSync.Meter

/-!
# Pipelines

The meter arrays of a device are fixed by its pipeline. Names and wire ids are each distinct and no
array is empty, so an array can be looked up by either key and the two look-ups are inverse.
-/

set_option autoImplicit false

namespace MeterSync

inductive NativeUnit where
  | unspecified
  | bytes
  | packets
deriving DecidableEq, Repr

instance : Keyword NativeUnit where
  all := [.unspecified, .bytes, .packets]
  word
    | .unspecified => "UNSPECIFIED"
    | .bytes => "BYTES"
    | .packets => "PACKETS"
  find_word value := by cases value <;> rfl

/-- The unit in which rates of an array are given: kilobytes for bytes, packets for packets, and
none where the array does not say what it counts. -/
def NativeUnit.rateUnit? : NativeUnit → Option RateUnit
  | .unspecified => none
  | .bytes => some .kilobytes
  | .packets => some .packets

/-- One meter array: its name, its id on the wire, its number of cells and what it counts. -/
structure MeterArray where
  id : MeterId
  wireId : UInt32
  size : UInt64
  unit : NativeUnit
deriving DecidableEq, Repr

/-- Why a list of meter arrays is no pipeline. -/
inductive PipelineError where
  | emptyArray (id : MeterId)
  | repeatedName (id : MeterId)
  | repeatedWireId (wireId : UInt32)
deriving DecidableEq, Repr

def PipelineError.message : PipelineError → String
  | .emptyArray id => s!"meter {id.text} has size 0"
  | .repeatedName id => s!"duplicate meter in pipeline: {id.text}"
  | .repeatedWireId wireId => s!"duplicate meter numeric id in pipeline: {wireId.toNat}"

structure Pipeline where
  arrays : List MeterArray
  ids_distinct : (arrays.map (·.id)).Nodup
  wireIds_distinct : (arrays.map (·.wireId)).Nodup
  sizes_positive : ∀ array ∈ arrays, array.size ≠ 0
deriving DecidableEq, Repr

namespace Pipeline

/-- The rule that an array breaks after the arrays before it. Its size is looked at first, then its
name, then its wire id. -/
def fault? (earlier : List MeterArray) (array : MeterArray) : Option PipelineError :=
  if array.size = 0 then some (.emptyArray array.id)
  else if array.id ∈ earlier.map (·.id) then some (.repeatedName array.id)
  else if array.wireId ∈ earlier.map (·.wireId) then some (.repeatedWireId array.wireId)
  else none

/-- The first broken rule in a list that follows other arrays. -/
def firstFault? (earlier : List MeterArray) : List MeterArray → Option PipelineError
  | [] => none
  | array :: rest =>
    match fault? earlier array with
    | some error => some error
    | none => firstFault? (earlier ++ [array]) rest

theorem fault?_eq_none_iff {earlier : List MeterArray} {array : MeterArray} :
    fault? earlier array = none ↔
      array.size ≠ 0 ∧ array.id ∉ earlier.map (·.id) ∧
        array.wireId ∉ earlier.map (·.wireId) := by
  unfold fault?
  split
  · simp_all
  · split
    · simp_all
    · split <;> simp_all

/-- No rule is broken exactly when what follows has no empty array and repeats no key. -/
theorem firstFault?_eq_none_iff {earlier rest : List MeterArray} :
    firstFault? earlier rest = none ↔
      (∀ array ∈ rest, array.size ≠ 0) ∧
      ((rest.map (·.id)).Nodup ∧ ∀ array ∈ rest, array.id ∉ earlier.map (·.id)) ∧
      ((rest.map (·.wireId)).Nodup ∧
        ∀ array ∈ rest, array.wireId ∉ earlier.map (·.wireId)) := by
  induction rest generalizing earlier with
  | nil => simp [firstFault?]
  | cons array rest ih =>
      have step : firstFault? earlier (array :: rest) = none ↔
          fault? earlier array = none ∧ firstFault? (earlier ++ [array]) rest = none := by
        rw [firstFault?]
        split <;> simp_all
      rw [step, fault?_eq_none_iff, ih]
      simp only [List.mem_cons, List.map_cons, List.nodup_cons, List.map_append,
        List.map_nil, List.mem_append, List.mem_map, not_or]
      constructor
      · rintro ⟨⟨size, id, wireId⟩, sizes, ⟨ids, freshIds⟩, wireIds, freshWireIds⟩
        refine ⟨?_, ⟨⟨?_, ids⟩, ?_⟩, ⟨?_, wireIds⟩, ?_⟩ <;> grind
      · rintro ⟨sizes, ⟨⟨id, ids⟩, freshIds⟩, ⟨wireId, wireIds⟩, freshWireIds⟩
        refine ⟨⟨?_, ?_, ?_⟩, ?_, ⟨ids, ?_⟩, wireIds, ?_⟩ <;> grind

/-- The pipeline with these arrays, or the first rule that they break. -/
def ofArrays (arrays : List MeterArray) : Except PipelineError Pipeline :=
  match checked : firstFault? [] arrays with
  | some error => .error error
  | none =>
    have sound := firstFault?_eq_none_iff.mp checked
    .ok ⟨arrays, sound.2.1.1, sound.2.2.1, sound.1⟩

def array? (pipeline : Pipeline) (id : MeterId) : Option MeterArray :=
  pipeline.arrays.find? fun array => array.id = id

def arrayOfWireId? (pipeline : Pipeline) (wireId : UInt32) : Option MeterArray :=
  pipeline.arrays.find? fun array => array.wireId = wireId

end Pipeline

end MeterSync
