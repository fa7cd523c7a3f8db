import MeterSync.Proofs.Advertisement
import MeterSync.Proofs.Form.Draft

/-!
# The rules of pipelines

A list of arrays is a pipeline exactly if it keeps the rules, and what is said of any other list is
the first thing that is wrong with it. Since the rules are kept, the name of an array and its wire
id lead to each other.
-/

set_option autoImplicit false

namespace MeterSync

namespace Pipeline

/-- No array is empty, and no two share a name or a wire id. -/
structure Sound (arrays : List MeterArray) : Prop where
  sizes : ∀ array ∈ arrays, array.size ≠ 0
  ids : (arrays.map (·.id)).Nodup
  wireIds : (arrays.map (·.wireId)).Nodup

/-- What is wrong with an array behind others. Its size goes before its name, and its name before
its wire id. -/
inductive Breaks (earlier : List MeterArray) (array : MeterArray) : PipelineError → Prop where
  | size : array.size = 0 → Breaks earlier array (.emptyArray array.id)
  | id : array.size ≠ 0 → (∃ other ∈ earlier, other.id = array.id) →
      Breaks earlier array (.repeatedName array.id)
  | wireId : array.size ≠ 0 → (∀ other ∈ earlier, other.id ≠ array.id) →
      (∃ other ∈ earlier, other.wireId = array.wireId) →
      Breaks earlier array (.repeatedWireId array.wireId)

variable {arrays earlier rest : List MeterArray} {array : MeterArray} {error : PipelineError}

theorem fault?_eq_some_iff : fault? earlier array = some error ↔ Breaks earlier array error := by
  unfold fault?
  constructor
  · intro found
    split at found
    · rename_i empty
      cases found
      exact .size empty
    · rename_i occupied
      split at found
      · rename_i repeated
        cases found
        exact .id occupied (List.mem_map.mp repeated)
      · rename_i fresh
        split at found
        · rename_i repeated
          cases found
          exact .wireId occupied
            (fun other member same => fresh (List.mem_map.mpr ⟨other, member, same⟩))
            (List.mem_map.mp repeated)
        · cases found
  · intro broken
    cases broken with
    | size empty => rw [if_pos empty]
    | id occupied repeated => rw [if_neg occupied, if_pos (List.mem_map.mpr repeated)]
    | wireId occupied fresh repeated =>
        have unnamed : array.id ∉ earlier.map (·.id) := by
          intro named
          obtain ⟨other, member, same⟩ := List.mem_map.mp named
          exact fresh other member same
        rw [if_neg occupied, if_neg unnamed, if_pos (List.mem_map.mpr repeated)]

/-- The first array with something wrong stands behind arrays with nothing wrong. -/
theorem firstFault?_eq_some_iff :
    firstFault? earlier rest = some error ↔
      ∃ before array later, rest = before ++ array :: later ∧
        firstFault? earlier before = none ∧ fault? (earlier ++ before) array = some error := by
  induction rest generalizing earlier with
  | nil => simp [firstFault?]
  | cons first rest ih =>
      rw [firstFault?]
      cases broken : fault? earlier first with
      | some found =>
          constructor
          · rintro ⟨⟩
            exact ⟨[], first, rest, rfl, rfl, by rw [List.append_nil, broken]⟩
          · rintro ⟨before, array, later, split, sound, wrong⟩
            cases before with
            | nil =>
                cases split
                rw [List.append_nil, broken] at wrong
                exact wrong
            | cons other before =>
                cases split
                simp [firstFault?, broken] at sound
      | none =>
          dsimp only
          rw [ih]
          constructor
          · rintro ⟨before, array, later, rfl, sound, wrong⟩
            refine ⟨first :: before, array, later, rfl, ?_, ?_⟩
            · simpa [firstFault?, broken] using sound
            · simpa using wrong
          · rintro ⟨before, array, later, split, sound, wrong⟩
            cases before with
            | nil =>
                cases split
                rw [List.append_nil, broken] at wrong
                cases wrong
            | cons other before =>
                cases split
                refine ⟨before, array, later, rfl, ?_, ?_⟩
                · simpa [firstFault?, broken] using sound
                · simpa using wrong

theorem sound_iff : Sound arrays ↔ firstFault? [] arrays = none := by
  rw [firstFault?_eq_none_iff]
  constructor
  · intro sound
    exact ⟨sound.sizes, ⟨sound.ids, by simp⟩, sound.wireIds, by simp⟩
  · rintro ⟨sizes, ⟨ids, _⟩, wireIds, _⟩
    exact ⟨sizes, ids, wireIds⟩

theorem ofArrays_eq_ok_iff {pipeline : Pipeline} :
    ofArrays arrays = .ok pipeline ↔ arrays = pipeline.arrays := by
  rw [← ofArrays_toOption]
  cases ofArrays arrays <;> simp [Except.toOption]

theorem ofArrays_eq_error_iff :
    ofArrays arrays = .error error ↔ firstFault? [] arrays = some error := by
  unfold ofArrays
  split
  · rename_i broken
    rw [broken]
    simp
  · rename_i sound
    constructor
    · intro refused
      cases refused
    · intro broken
      rw [sound] at broken
      cases broken

/-- A list is refused for what is wrong with the first array that anything is wrong with. -/
theorem ofArrays_eq_error_iff_breaks :
    ofArrays arrays = .error error ↔
      ∃ before array later, arrays = before ++ array :: later ∧ Sound before ∧
        Breaks before array error := by
  simp only [ofArrays_eq_error_iff, firstFault?_eq_some_iff, ← sound_iff, List.nil_append,
    fault?_eq_some_iff]

theorem sound (pipeline : Pipeline) : Sound pipeline.arrays :=
  ⟨pipeline.sizes_positive, pipeline.ids_distinct, pipeline.wireIds_distinct⟩

theorem exists_ofArrays_iff : (∃ pipeline, ofArrays arrays = .ok pipeline) ↔ Sound arrays := by
  constructor
  · rintro ⟨pipeline, built⟩
    rw [ofArrays_eq_ok_iff.mp built]
    exact pipeline.sound
  · intro sound
    exact ⟨⟨arrays, sound.ids, sound.wireIds, sound.sizes⟩, ofArrays_eq_ok_iff.mpr rfl⟩

theorem arrayOfWireId?_of_array? {pipeline : Pipeline} {id : MeterId}
    (found : pipeline.array? id = some array) :
    pipeline.arrayOfWireId? array.wireId = some array := by
  obtain ⟨member, _⟩ := array?_eq_some_iff.mp found
  exact arrayOfWireId?_eq_some_iff.mpr ⟨member, rfl⟩

theorem array?_of_arrayOfWireId? {pipeline : Pipeline} {wireId : UInt32}
    (found : pipeline.arrayOfWireId? wireId = some array) :
    pipeline.array? array.id = some array := by
  obtain ⟨member, _⟩ := arrayOfWireId?_eq_some_iff.mp found
  exact array?_eq_some_iff.mpr ⟨member, rfl⟩

end Pipeline

/-! ## Drafts of pipelines -/

/-- No name is blank, and the arrays keep the rules. -/
structure PipelineDraft.Admissible (draft : PipelineDraft) : Prop where
  marked : ∀ array ∈ draft.arrays, isBlank array.name = false
  sizes : ∀ array ∈ draft.arrays, array.size ≠ 0
  names : (draft.arrays.map (·.name)).Nodup
  wireIds : (draft.arrays.map (·.wireId)).Nodup

namespace Pipeline

theorem draft_admissible (pipeline : Pipeline) : pipeline.draft.Admissible := by
  constructor
  · intro draft member
    obtain ⟨array, _, rfl⟩ := List.mem_map.mp member
    exact array.id.marked
  · intro draft member
    obtain ⟨array, arrayMember, rfl⟩ := List.mem_map.mp member
    exact pipeline.sizes_positive array arrayMember
  · have texts := pipeline.ids_distinct.map MeterId.text_injective
    rw [List.map_map] at texts
    rw [draft, List.map_map]
    exact texts
  · rw [draft, List.map_map]
    exact pipeline.wireIds_distinct

theorem exists_draft_iff {draft : PipelineDraft} :
    (∃ pipeline : Pipeline, pipeline.draft = draft) ↔ draft.Admissible := by
  constructor
  · rintro ⟨pipeline, rfl⟩
    exact pipeline.draft_admissible
  · intro admissible
    let arrays := draft.arrays.pmap
      (fun array marked => MeterArray.mk ⟨array.name, marked⟩ array.wireId array.size array.unit)
      admissible.marked
    have drafts : arrays.map (·.draft) = draft.arrays := by
      simp [arrays, List.map_pmap, MeterArray.draft]
    have sound : Sound arrays := by
      constructor
      · intro array member
        have listed : array.draft ∈ draft.arrays := drafts ▸ List.mem_map_of_mem member
        exact admissible.sizes array.draft listed
      · have names := admissible.names
        rw [← drafts, List.map_map] at names
        refine List.Nodup.of_map MeterId.text ?_
        rw [List.map_map]
        exact names
      · have wireIds := admissible.wireIds
        rw [← drafts, List.map_map] at wireIds
        exact wireIds
    exact ⟨⟨arrays, sound.ids, sound.wireIds, sound.sizes⟩, congrArg PipelineDraft.mk drafts⟩

end Pipeline

open Json

/-- A list of arrays is a pipeline exactly if it is sound, and otherwise the error names the first
array that breaks a rule. In a pipeline every array is found by its name and by its wire id, and
either leads to the other. A text is read as a pipeline exactly if its draft breaks no rule and
leaves no name blank. -/
theorem pipeline_rules_exact :
    (∀ arrays, (∃ pipeline, Pipeline.ofArrays arrays = .ok pipeline) ↔ Pipeline.Sound arrays) ∧
    (∀ arrays error, Pipeline.ofArrays arrays = .error error ↔
      ∃ before array later, arrays = before ++ array :: later ∧ Pipeline.Sound before ∧
        Pipeline.Breaks before array error) ∧
    (∀ arrays pipeline, Pipeline.ofArrays arrays = .ok pipeline →
      (∀ id array, pipeline.array? id = some array ↔ array ∈ arrays ∧ array.id = id) ∧
      (∀ wireId array, pipeline.arrayOfWireId? wireId = some array ↔
        array ∈ arrays ∧ array.wireId = wireId) ∧
      (∀ id, ((pipeline.array? id).bind fun array => pipeline.arrayOfWireId? array.wireId) =
        pipeline.array? id) ∧
      ∀ wireId, ((pipeline.arrayOfWireId? wireId).bind fun array => pipeline.array? array.id) =
        pipeline.arrayOfWireId? wireId) ∧
    (∀ text draft,
      (∃ pipeline, readText? Pipeline.read? text = some pipeline ∧ pipeline.draft = draft) ↔
        readText? PipelineDraft.read? text = some draft ∧ draft.Admissible) ∧
    ∀ text pipeline, readText? Pipeline.read? text = some pipeline →
      Pipeline.Sound pipeline.arrays ∧
        ∀ array ∈ pipeline.arrays, isBlank array.id.text = false := by
  refine ⟨fun _ => Pipeline.exists_ofArrays_iff, fun _ _ => Pipeline.ofArrays_eq_error_iff_breaks,
    ?_, ?_, ?_⟩
  · intro arrays pipeline built
    rw [Pipeline.ofArrays_eq_ok_iff.mp built]
    refine ⟨fun _ _ => Pipeline.array?_eq_some_iff,
      fun _ _ => Pipeline.arrayOfWireId?_eq_some_iff, fun id => ?_, fun wireId => ?_⟩
    · cases found : pipeline.array? id with
      | none => rfl
      | some array => exact Pipeline.arrayOfWireId?_of_array? found
    · cases found : pipeline.arrayOfWireId? wireId with
      | none => rfl
      | some array => exact Pipeline.array?_of_arrayOfWireId? found
  · intro text draft
    constructor
    · rintro ⟨pipeline, read, rfl⟩
      exact ⟨(readText?_eq_some_iff Pipeline.readsAs).mp read, pipeline.draft_admissible⟩
    · rintro ⟨read, admissible⟩
      obtain ⟨pipeline, rfl⟩ := Pipeline.exists_draft_iff.mpr admissible
      exact ⟨pipeline, (readText?_eq_some_iff Pipeline.readsAs).mpr read, rfl⟩
  · intro text pipeline read
    exact ⟨pipeline.sound, fun array _ => array.id.marked⟩

namespace Sample

def plainArray : MeterArray := ⟨⟨"a", by decide⟩, 7, 1, .unspecified⟩

def packetArray : MeterArray := ⟨⟨" b", by decide⟩, 5, 4, .packets⟩

/-- The arrays as JSON, one by position and one by name. -/
def arraysText : String :=
  "\x7b\"meters\":[[\"a\",7,1]," ++
    "\x7b\"unit\":\"PACKETS\",\"p4_id\":5,\"id\":\" b\",\"size\":4\x7d]\x7d"

end Sample

open Sample in
theorem pipeline_rules_exact_pair :
    ∃ pipeline, Pipeline.ofArrays [plainArray, packetArray] = .ok pipeline ∧
      pipeline.array? packetArray.id = some packetArray ∧
      ((pipeline.array? packetArray.id).bind fun array => pipeline.arrayOfWireId? array.wireId) =
        some packetArray ∧
      readText? Pipeline.read? arraysText = some pipeline ∧
      Pipeline.Sound pipeline.arrays ∧
      ∀ array ∈ pipeline.arrays, isBlank array.id.text = false := by
  obtain ⟨_, _, lookups, _, texts⟩ := pipeline_rules_exact
  let pipeline : Pipeline := ⟨[plainArray, packetArray], by decide, by decide, by decide⟩
  have built : Pipeline.ofArrays [plainArray, packetArray] = .ok pipeline := rfl
  have read : readText? Pipeline.read? arraysText = some pipeline := by decide +kernel
  obtain ⟨named, _, back, _⟩ := lookups _ _ built
  have found : pipeline.array? packetArray.id = some packetArray :=
    (named _ _).mpr ⟨by decide, rfl⟩
  exact ⟨pipeline, built, found, (back _).trans found, read, texts _ _ read⟩

/-- Of two arrays that break a rule the first counts. -/
example : Pipeline.ofArrays
    [Sample.plainArray, { Sample.packetArray with wireId := 7 },
      { Sample.plainArray with size := 0 }] =
      .error (.repeatedWireId 7) := rfl

end MeterSync
