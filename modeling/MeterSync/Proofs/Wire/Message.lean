import MeterSync.Wire.Entry

/-!
# Messages and their bytes

Reading the bytes of a message gives the message back, for fields, indices, configurations and
entries in turn. Only fields that are written at all are concerned: numbered, and with a content.
-/

set_option autoImplicit false

namespace MeterSync.Wire

theorem Varint.digits_length (more value : Nat) : (digits more value).length ≤ more + 1 := by
  induction more generalizing value with
  | zero => simp [digits]
  | succ more ih =>
      rw [digits]
      split
      · simp
      · simpa using ih (value / 128)

theorem Varint.encode_length (value : UInt64) : (encode value).length ≤ 10 :=
  digits_length 9 value.toNat

theorem Layout.ofCode?_code (layout : Layout) : ofCode? layout.code = some layout := by
  cases layout <;> rfl

theorem Layout.code_lt (layout : Layout) : layout.code < 8 := by
  cases layout <;> decide

/-! ## Fields -/

/-- A number that a key can carry beside three bits of layout. -/
def IsFieldNumber (number : Nat) : Prop :=
  0 < number ∧ number < 0x20000000

instance (number : Nat) : Decidable (IsFieldNumber number) :=
  inferInstanceAs (Decidable (_ ∧ _))

/-- A field with a content that is written out, and not only read over. -/
inductive Field.Written : Field → Prop where
  | varint {number : Nat} {value : UInt64} : IsFieldNumber number → Written ⟨number, .varint value⟩
  | delimited {number : Nat} {bytes : List UInt8} :
      IsFieldNumber number → bytes.length < UInt64.size → Written ⟨number, .delimited bytes⟩

theorem Key.decode_of_value {number : Nat} (numbered : IsFieldNumber number) {layout : Layout}
    {bytes rest : List UInt8}
    (read : Varint.decode bytes = some (UInt64.ofNat (number * 8 + layout.code), rest)) :
    Key.decode bytes = some (⟨number, layout⟩, rest) := by
  obtain ⟨positive, small⟩ := numbered
  have code := layout.code_lt
  have exact : (number * 8 + layout.code) % 2 ^ 64 = number * 8 + layout.code :=
    Nat.mod_eq_of_lt (by omega)
  have low : (number * 8 + layout.code) % 8 = layout.code := by omega
  have high : (number * 8 + layout.code) / 8 = number := by omega
  have fits : number * 8 + layout.code < UInt32.size ∧ 8 ≤ number * 8 + layout.code := by
    simp only [UInt32.size]
    omega
  simp only [Key.decode, read, UInt64.toNat_ofNat', exact, low, high, Layout.ofCode?_code]
  rw [if_pos fits]

theorem Key.decode_encode {number : Nat} (numbered : IsFieldNumber number) (layout : Layout)
    (rest : List UInt8) :
    Key.decode (Key.encode ⟨number, layout⟩ ++ rest) = some (⟨number, layout⟩, rest) :=
  Key.decode_of_value numbered (Varint.decode_encode _ rest)

theorem Field.decode_encode {field : Field} (written : field.Written) (depth : Nat)
    (rest : List UInt8) : Field.decode depth (field.encode ++ rest) = some (field, rest) := by
  cases written with
  | varint numbered =>
      simp only [Field.decode, Field.encode, List.append_assoc, Key.decode_encode numbered,
        Varint.decode_encode, Option.map_some]
  | @delimited number bytes numbered short =>
      have length : (UInt64.ofNat bytes.length).toNat = bytes.length := by
        rw [UInt64.toNat_ofNat']
        exact Nat.mod_eq_of_lt short
      simp only [Field.decode, Field.encode, List.append_assoc, Key.decode_encode numbered,
        Varint.decode_encode, length, advance, List.length_append, Nat.le_add_right, if_true,
        Option.map_some, List.take_left, List.drop_left]

theorem Field.decode_nil (depth : Nat) : Field.decode depth [] = none := by
  simp [Field.decode, Key.decode, Varint.decode, Varint.readDigits]

theorem Field.decodeAll_of_decode {depth : Nat} {bytes rest : List UInt8} {field : Field}
    (read : Field.decode depth bytes = some (field, rest)) :
    Field.decodeAll depth bytes = (Field.decodeAll depth rest).map (field :: ·) := by
  have some_bytes : bytes ≠ [] := by
    rintro rfl
    rw [Field.decode_nil] at read
    cases read
  rw [Field.decodeAll, if_neg some_bytes]
  split
  · rename_i failed
    rw [read] at failed
    cases failed
  · rename_i decoded
    rw [read] at decoded
    cases decoded
    rfl

theorem Field.decodeAll_encodeFields {fields : List Field}
    (written : ∀ field ∈ fields, field.Written) (depth : Nat) :
    Field.decodeAll depth (encodeFields fields) = some fields := by
  induction fields with
  | nil => simp [encodeFields, Field.decodeAll]
  | cons field fields ih =>
      have first : Field.decode depth (encodeFields (field :: fields)) =
          some (field, encodeFields fields) :=
        Field.decode_encode (written field List.mem_cons_self) depth _
      have later : Field.decodeAll depth (encodeFields fields) = some fields :=
        ih fun other member => written other (List.mem_cons_of_mem _ member)
      rw [Field.decodeAll_of_decode first, later]
      rfl

theorem encodeFields_append (first second : List Field) :
    encodeFields (first ++ second) = encodeFields first ++ encodeFields second :=
  List.flatMap_append

/-! ## Signed numbers -/

theorem int64Field_written {number : Nat} (numbered : IsFieldNumber number) (value : Int64) :
    ∀ field ∈ int64Field number value, field.Written := by
  intro field member
  rw [int64Field] at member
  split at member
  · cases member
  · rw [List.mem_singleton.mp member]
    exact .varint numbered

theorem encodeFields_int64Field_length (number : Nat) (value : Int64) :
    (encodeFields (int64Field number value)).length ≤ 20 := by
  rw [int64Field]
  split
  · simp [encodeFields]
  · have key := Varint.encode_length (UInt64.ofNat (number * 8 + Layout.varint.code))
    have content := Varint.encode_length value.toUInt64
    simp only [encodeFields, List.flatMap_cons, List.flatMap_nil, List.append_nil, Field.encode,
      Key.encode, List.length_append]
    omega

/-! ## Indices -/

theorem mergeIndexBytes_encodeIndex (depth : Nat) (index : Int64) :
    mergeIndexBytes depth 0 (encodeIndex index) = some index := by
  have written : ∀ field ∈ int64Field 1 index, field.Written :=
    int64Field_written (by decide) index
  rw [mergeIndexBytes, encodeIndex, indexFields, Field.decodeAll_encodeFields written depth]
  by_cases zero : index = 0
  · subst zero
    rfl
  · simp [int64Field, zero, mergeIndex]

theorem encodeIndex_length (index : Int64) : (encodeIndex index).length < UInt64.size := by
  have short := encodeFields_int64Field_length 1 index
  rw [encodeIndex, indexFields, UInt64.size]
  omega

/-! ## Configurations -/

theorem Config.fields_written (config : Config) : ∀ field ∈ config.fields, field.Written := by
  intro field member
  simp only [Config.fields, List.mem_append] at member
  obtain ((cir | cburst) | pir) | pburst := member
  · exact int64Field_written (by decide) _ field cir
  · exact int64Field_written (by decide) _ field cburst
  · exact int64Field_written (by decide) _ field pir
  · exact int64Field_written (by decide) _ field pburst

theorem Config.mergeBytes_encode (depth : Nat) (config : Config) :
    Config.zero.mergeBytes depth config.encode = some config := by
  obtain ⟨cir, cburst, pir, pburst⟩ := config
  -- a zero is left out, and is what the number already was
  have merged (start : Config) (number : Nat) (value : Int64) (set : Config)
      (zero : value = 0 → set = start)
      (step : start.merge ⟨number, .varint value.toUInt64⟩ = some set) :
      (int64Field number value).foldlM Config.merge start = some set := by
    by_cases absent : value = 0
    · simp [int64Field, absent, zero absent]
    · simp [int64Field, absent, step]
  rw [Config.mergeBytes, Config.encode,
    Field.decodeAll_encodeFields (Config.fields_written _) depth]
  simp only [Config.fields, List.foldlM_append]
  rw [merged .zero 1 cir ⟨cir, 0, 0, 0⟩ (by rintro rfl; rfl) rfl]
  simp only [Option.bind_eq_bind, Option.bind_some]
  rw [merged _ 2 cburst ⟨cir, cburst, 0, 0⟩ (by rintro rfl; rfl) rfl, Option.bind_some,
    merged _ 3 pir ⟨cir, cburst, pir, 0⟩ (by rintro rfl; rfl) rfl, Option.bind_some,
    merged _ 4 pburst ⟨cir, cburst, pir, pburst⟩ (by rintro rfl; rfl) rfl]

theorem Config.encode_length (config : Config) : config.encode.length < UInt64.size := by
  have cir := encodeFields_int64Field_length 1 config.cir
  have cburst := encodeFields_int64Field_length 2 config.cburst
  have pir := encodeFields_int64Field_length 3 config.pir
  have pburst := encodeFields_int64Field_length 4 config.pburst
  simp only [Config.encode, Config.fields, encodeFields_append, List.length_append, UInt64.size]
  omega

/-! ## Entries -/

theorem Entry.fields_written (entry : Entry) : ∀ field ∈ entry.fields, field.Written := by
  intro field member
  simp only [Entry.fields, List.mem_append, Option.mem_toList, Option.map_eq_some_iff] at member
  obtain (key | ⟨index, _, rfl⟩) | ⟨config, _, rfl⟩ := member
  · split at key
    · cases key
    · rw [List.mem_singleton.mp key]
      exact .varint (by decide)
  · exact .delimited (by decide) (encodeIndex_length index)
  · exact .delimited (by decide) config.encode_length

theorem Entry.decode_encode (entry : Entry) : Entry.decode entry.encode = some entry := by
  obtain ⟨meterId, index, config⟩ := entry
  have key : (if meterId = 0 then [] else [⟨1, .varint meterId.toUInt64⟩] : List Field).foldlM
      Entry.merge Entry.empty = some ⟨meterId, none, none⟩ := by
    by_cases zero : meterId = 0
    · subst zero
      rfl
    · simp [zero, Entry.merge, Entry.empty]
  have indexed :
      ((index.map fun index => Field.mk 2 (.delimited (encodeIndex index))).toList).foldlM
        Entry.merge ⟨meterId, none, none⟩ = some ⟨meterId, index, none⟩ := by
    cases index with
    | none => rfl
    | some index => simp [Entry.merge, mergeIndexBytes_encodeIndex]
  have configured : ((config.map fun config => Field.mk 3 (.delimited config.encode)).toList).foldlM
      Entry.merge ⟨meterId, index, none⟩ = some ⟨meterId, index, config⟩ := by
    cases config with
    | none => rfl
    | some config => simp [Entry.merge, Config.mergeBytes_encode]
  rw [Entry.decode, Entry.encode, Field.decodeAll_encodeFields (Entry.fields_written _)]
  simp only [Entry.fields, List.foldlM_append, key, Option.bind_eq_bind, Option.bind_some, indexed,
    configured]

end MeterSync.Wire
