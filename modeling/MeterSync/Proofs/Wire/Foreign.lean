import MeterSync.Proofs.Wire.Message

/-!
# Foreign fields

A sender may know fields that a message does not. Their bytes follow a grammar: numbers may be
spelled with zeros above them, a content is any content, and a group is a row of fields up to its
end mark. Wherever such fields stand among those of an entry, the entry reads back as it was.
-/

set_option autoImplicit false

namespace MeterSync.Wire

/-! ## Spellings of numbers -/

namespace Varint

/-- Bytes for a number, of which at most `more` are followed by another. -/
inductive Spells : (more : Nat) → List UInt8 → (value : Nat) → Prop where
  | last {more : Nat} {byte : UInt8} :
      byte.toNat < 128 → byte.toNat < capacity more → Spells more [byte] byte.toNat
  | next {more high : Nat} {byte : UInt8} {bytes : List UInt8} :
      128 ≤ byte.toNat → Spells more bytes high →
      Spells (more + 1) (byte :: bytes) (byte.toNat - 128 + 128 * high)

variable {more value : Nat} {bytes : List UInt8}

theorem two_le_capacity (more : Nat) : 2 ≤ capacity more := by
  induction more with
  | zero => exact Nat.le_refl 2
  | succ more ih =>
      rw [capacity]
      omega

theorem readDigits_of_spells (spelled : Spells more bytes value) (rest : List UInt8) :
    readDigits more (bytes ++ rest) = some (value, rest) := by
  induction spelled with
  | @last more byte short small =>
      cases more with
      | zero =>
          have atMostOne : byte.toNat ≤ 1 := Nat.le_of_lt_succ small
          simp [readDigits, atMostOne]
      | succ more => simp [readDigits, short]
  | next long _ ih =>
      have continued := Nat.not_lt.mpr long
      simp [readDigits, continued, ih]

theorem spells_of_readDigits (read : readDigits more bytes = some (value, [])) :
    Spells more bytes value := by
  induction more generalizing bytes value with
  | zero =>
      cases bytes with
      | nil => cases read
      | cons byte bytes =>
          simp only [readDigits] at read
          split at read
          · rename_i atMostOne
            cases read
            exact .last (by omega) (Nat.lt_succ_of_le atMostOne)
          · cases read
  | succ more ih =>
      cases bytes with
      | nil => cases read
      | cons byte bytes =>
          simp only [readDigits] at read
          split at read
          · rename_i short
            cases read
            have room := two_le_capacity more
            exact .last short (by rw [capacity]; omega)
          · rename_i long
            split at read
            · cases read
            · rename_i later
              cases read
              exact .next (Nat.le_of_not_lt long) (ih later)

/-- A number is read from exactly the bytes that spell it. -/
theorem spells_iff : Spells more bytes value ↔ readDigits more bytes = some (value, []) := by
  constructor
  · intro spelled
    simpa using readDigits_of_spells spelled []
  · exact spells_of_readDigits

instance : Decidable (Spells more bytes value) :=
  decidable_of_iff _ spells_iff.symm

theorem Spells.lt_capacity (spelled : Spells more bytes value) : value < capacity more := by
  induction spelled with
  | last _ small => exact small
  | @next more high byte bytes _ _ ih =>
      have bounded := byte.toNat_lt
      rw [capacity]
      omega

abbrev Spelling (bytes : List UInt8) (value : Nat) : Prop :=
  Spells 9 bytes value

theorem Spelling.lt_size (spelled : Spelling bytes value) : value < UInt64.size :=
  spelled.lt_capacity

theorem decode_of_spelling (spelled : Spelling bytes value) (rest : List UInt8) :
    decode (bytes ++ rest) = some (UInt64.ofNat value, rest) := by
  rw [decode, readDigits_of_spells spelled rest]
  rfl

end Varint

/-! ## Fields as bytes -/

structure Key.Spelling (key : Key) (bytes : List UInt8) : Prop where
  numbered : IsFieldNumber key.number
  spelled : Varint.Spelling bytes (key.number * 8 + key.layout.code)

/-- What may stand behind the key of a field that is no group. -/
inductive Layout.Content : Layout → List UInt8 → Prop where
  | varint {bytes : List UInt8} {value : Nat} : Varint.Spelling bytes value → Content .varint bytes
  | fixed64 {bytes : List UInt8} : bytes.length = 8 → Content .fixed64 bytes
  | delimited {count bytes : List UInt8} :
      Varint.Spelling count bytes.length → Content .delimited (count ++ bytes)
  | fixed32 {bytes : List UInt8} : bytes.length = 4 → Content .fixed32 bytes

/-- The bytes of a field, with its number. -/
structure RawField where
  number : Nat
  bytes : List UInt8
deriving DecidableEq, Repr

namespace RawField

def row (fields : List RawField) : List UInt8 :=
  fields.flatMap (·.bytes)

/-- A plain field, or a group with a row of fields in it. Plain fields stand inside fewer than
`plain` groups, and groups inside fewer than `group`. -/
inductive WellFormed : (plain group : Nat) → RawField → Prop where
  | plain {plain group number : Nat} {layout : Layout} {key content : List UInt8} :
      Key.Spelling ⟨number, layout⟩ key → layout.Content content →
      WellFormed (plain + 1) group ⟨number, key ++ content⟩
  | group {plain group number : Nat} {start stop : List UInt8} {fields : List RawField} :
      Key.Spelling ⟨number, .groupStart⟩ start →
      (∀ field ∈ fields, WellFormed plain group field) →
      Key.Spelling ⟨number, .groupEnd⟩ stop →
      WellFormed (plain + 1) (group + 1) ⟨number, start ++ row fields ++ stop⟩

end RawField

/-! ## Reading over fields -/

theorem Key.decode_of_spelling {number : Nat} {layout : Layout} {bytes : List UInt8}
    (key : Key.Spelling ⟨number, layout⟩ bytes) (rest : List UInt8) :
    Key.decode (bytes ++ rest) = some (⟨number, layout⟩, rest) :=
  Key.decode_of_value key.numbered (Varint.decode_of_spelling key.spelled rest)

theorem advance_append (bytes rest : List UInt8) :
    advance bytes.length (bytes ++ rest) = some rest := by
  simp [advance]

theorem skipPlain_of_content {layout : Layout} {content : List UInt8}
    (formed : layout.Content content) (rest : List UInt8) :
    skipPlain layout (content ++ rest) = some rest := by
  cases formed with
  | varint spelled =>
      rw [skipPlain, Varint.decode_of_spelling spelled]
      rfl
  | fixed64 sized =>
      rw [skipPlain, ← sized]
      exact advance_append content rest
  | @delimited count bytes spelled =>
      rw [skipPlain, List.append_assoc, Varint.decode_of_spelling spelled]
      simp only [UInt64.toNat_ofNat_of_lt' spelled.lt_size]
      exact advance_append bytes rest
  | fixed32 sized =>
      rw [skipPlain, ← sized]
      exact advance_append content rest

section Groups

variable {depth number : Nat} {outer : List Nat} {bytes rest : List UInt8}

/-- What becomes of open groups at the next key. -/
theorem skipGroups_of_decode {key : Key} (read : Key.decode bytes = some (key, rest)) :
    skipGroups depth (number :: outer) bytes =
      match key.layout with
      | .groupEnd => if key.number = number then skipGroups depth outer rest else none
      | .groupStart =>
        if outer.length + 1 < depth then skipGroups depth (key.number :: number :: outer) rest
        else none
      | layout =>
        if outer.length + 1 < depth then
          (skipPlain layout rest).bind (skipGroups depth (number :: outer))
        else none := by
  rw [skipGroups]
  split
  · rename_i failed
    rw [read] at failed
    cases failed
  · rename_i found
    rw [read] at found
    cases found
    cases key.layout with
    | groupEnd => rfl
    | groupStart => rfl
    | varint | fixed64 | delimited | fixed32 =>
        dsimp only [List.length_cons]
        split
        · split
          · rename_i failed
            rw [failed]
            rfl
          · rename_i skipped
            rw [skipped]
            rfl
        · rfl

theorem skipGroups_stop (read : Key.decode bytes = some (⟨number, .groupEnd⟩, rest)) :
    skipGroups depth (number :: outer) bytes = skipGroups depth outer rest := by
  rw [skipGroups_of_decode read]
  exact if_pos rfl

theorem skipGroups_start {inner : Nat} (read : Key.decode bytes = some (⟨inner, .groupStart⟩, rest))
    (room : outer.length + 1 < depth) :
    skipGroups depth (number :: outer) bytes =
      skipGroups depth (inner :: number :: outer) rest := by
  rw [skipGroups_of_decode read]
  exact if_pos room

theorem skipGroups_plain {key : Key} {after : List UInt8}
    (read : Key.decode bytes = some (key, rest)) (skipped : skipPlain key.layout rest = some after)
    (room : outer.length + 1 < depth) :
    skipGroups depth (number :: outer) bytes = skipGroups depth (number :: outer) after := by
  rw [skipGroups_of_decode read]
  cases layout : key.layout with
  | groupEnd =>
      rw [layout] at skipped
      cases skipped
  | groupStart =>
      rw [layout] at skipped
      cases skipped
  | varint | fixed64 | delimited | fixed32 =>
      rw [layout] at skipped
      dsimp only
      rw [if_pos room, skipped]
      rfl

theorem skipGroups_row {opened : List Nat} {fields : List RawField}
    (each : ∀ field ∈ fields, ∀ rest,
      skipGroups depth opened (field.bytes ++ rest) = skipGroups depth opened rest)
    (rest : List UInt8) :
    skipGroups depth opened (RawField.row fields ++ rest) = skipGroups depth opened rest := by
  induction fields with
  | nil => rfl
  | cons field fields ih =>
      rw [RawField.row, List.flatMap_cons, List.append_assoc, each field List.mem_cons_self]
      exact ih fun other member => each other (List.mem_cons_of_mem _ member)

theorem skipGroups_field {plain group : Nat} {field : RawField}
    (formed : field.WellFormed plain group) (plainFits : outer.length + 1 + plain ≤ depth)
    (groupFits : outer.length + 1 + group ≤ depth) (rest : List UInt8) :
    skipGroups depth (number :: outer) (field.bytes ++ rest) =
      skipGroups depth (number :: outer) rest := by
  induction formed generalizing number outer rest with
  | plain key content =>
      rw [List.append_assoc]
      exact skipGroups_plain (Key.decode_of_spelling key _) (skipPlain_of_content content rest)
        (by omega)
  | @group plain group inner start stop fields opening _ closing ih =>
      have content : ∀ field ∈ fields, ∀ rest,
          skipGroups depth (inner :: number :: outer) (field.bytes ++ rest) =
            skipGroups depth (inner :: number :: outer) rest := by
        intro field member rest
        apply ih field member
        · rw [List.length_cons]
          omega
        · rw [List.length_cons]
          omega
      rw [List.append_assoc, List.append_assoc,
        skipGroups_start (Key.decode_of_spelling opening _) (by omega), skipGroups_row content,
        skipGroups_stop (Key.decode_of_spelling closing _)]

end Groups

theorem Field.decode_of_wellFormed {plain group depth : Nat} {field : RawField}
    (formed : field.WellFormed plain group) (plainFits : plain ≤ depth) (groupFits : group ≤ depth)
    (rest : List UInt8) :
    ∃ payload, Field.decode depth (field.bytes ++ rest) = some (⟨field.number, payload⟩, rest) := by
  cases formed with
  | @plain plain group number layout key content spelled formed =>
      have read := Key.decode_of_spelling spelled (content ++ rest)
      have skipped := skipPlain_of_content formed rest
      rw [List.append_assoc]
      cases formed with
      | @varint _ number value =>
          refine ⟨.varint (UInt64.ofNat number), ?_⟩
          simp only [Field.decode, read, Varint.decode_of_spelling value, Option.map_some]
      | fixed64 _ =>
          refine ⟨.other, ?_⟩
          simp only [Field.decode, read, skipped, Option.map_some]
      | @delimited count bytes value =>
          refine ⟨.delimited bytes, ?_⟩
          rw [List.append_assoc] at read ⊢
          simp only [Field.decode, read, Varint.decode_of_spelling value,
            UInt64.toNat_ofNat_of_lt' value.lt_size, advance_append, Option.map_some,
            List.take_left]
      | fixed32 _ =>
          refine ⟨.other, ?_⟩
          simp only [Field.decode, read, skipped, Option.map_some]
  | @group plain group number start stop fields opening contents closing =>
      have content : ∀ field ∈ fields, ∀ rest,
          skipGroups depth [number] (field.bytes ++ rest) = skipGroups depth [number] rest := by
        intro field member rest
        apply skipGroups_field (contents field member)
        · rw [List.length_nil]
          omega
        · rw [List.length_nil]
          omega
      refine ⟨.other, ?_⟩
      rw [List.append_assoc, List.append_assoc]
      simp only [Field.decode, Key.decode_of_spelling opening, skipGroups_row content,
        skipGroups_stop (Key.decode_of_spelling closing rest), skipGroups, Option.map_some]

/-! ## Entries among foreign fields -/

namespace Entry

def numbers : List Nat := [1, 2, 3]

theorem merge_foreign {number : Nat} (foreign : number ∉ numbers) (entry : Entry)
    (payload : Payload) : entry.merge ⟨number, payload⟩ = some entry := by
  simp only [numbers, List.mem_cons, List.not_mem_nil, or_false, not_or] at foreign
  obtain ⟨first, second, third⟩ := foreign
  unfold merge
  split <;> first | rfl | contradiction

theorem foldlM_merge_fields (entry : Entry) : entry.fields.foldlM merge empty = some entry := by
  have back := entry.decode_encode
  rwa [decode, encode, Field.decodeAll_encodeFields entry.fields_written] at back

end Entry

/-- Bytes of some fields with foreign ones before, between and behind them. -/
inductive Interspersed : List Field → List UInt8 → Prop where
  | nil : Interspersed [] []
  | own {field : Field} {fields : List Field} {bytes : List UInt8} :
      field.Written → Interspersed fields bytes →
      Interspersed (field :: fields) (field.encode ++ bytes)
  | foreign {extra : RawField} {fields : List Field} {bytes : List UInt8} :
      extra.WellFormed outerDepth outerDepth → extra.number ∉ Entry.numbers →
      Interspersed fields bytes → Interspersed fields (extra.bytes ++ bytes)

namespace Interspersed

variable {fields : List Field} {bytes : List UInt8}

theorem extras {extras : List RawField}
    (foreign : ∀ extra ∈ extras,
      extra.WellFormed outerDepth outerDepth ∧ extra.number ∉ Entry.numbers)
    (rest : Interspersed fields bytes) : Interspersed fields (RawField.row extras ++ bytes) := by
  induction extras with
  | nil => exact rest
  | cons extra extras ih =>
      obtain ⟨⟨formed, unknown⟩, others⟩ := List.forall_mem_cons.mp foreign
      rw [RawField.row, List.flatMap_cons, List.append_assoc]
      exact .foreign formed unknown (ih others)

theorem encoded {before : List Field} (written : ∀ field ∈ before, field.Written)
    (rest : Interspersed fields bytes) :
    Interspersed (before ++ fields) (encodeFields before ++ bytes) := by
  induction before with
  | nil => exact rest
  | cons field before ih =>
      obtain ⟨first, others⟩ := List.forall_mem_cons.mp written
      rw [encodeFields, List.flatMap_cons, List.append_assoc]
      exact .own first (ih others)

/-- All fields are read, and those that were added change no entry. -/
theorem decodeAll (interspersed : Interspersed fields bytes) :
    ∃ read, Field.decodeAll outerDepth bytes = some read ∧
      ∀ entry, read.foldlM Entry.merge entry = fields.foldlM Entry.merge entry := by
  induction interspersed with
  | nil => exact ⟨[], by simp [Field.decodeAll], fun _ => rfl⟩
  | @own field fields bytes written _ ih =>
      obtain ⟨read, decoded, merged⟩ := ih
      refine ⟨field :: read, ?_, fun entry => ?_⟩
      · rw [Field.decodeAll_of_decode (Field.decode_encode written outerDepth bytes), decoded]
        rfl
      · rw [List.foldlM_cons, List.foldlM_cons]
        exact congrArg _ (funext merged)
  | @foreign extra fields bytes formed unknown _ ih =>
      obtain ⟨read, decoded, merged⟩ := ih
      obtain ⟨payload, first⟩ :=
        Field.decode_of_wellFormed formed (Nat.le_refl _) (Nat.le_refl _) bytes
      refine ⟨⟨extra.number, payload⟩ :: read, ?_, fun entry => ?_⟩
      · rw [Field.decodeAll_of_decode first, decoded]
        rfl
      · rw [List.foldlM_cons, Entry.merge_foreign unknown]
        exact merged entry

theorem decode {entry : Entry} (interspersed : Interspersed entry.fields bytes) :
    Entry.decode bytes = some entry := by
  obtain ⟨read, decoded, merged⟩ := interspersed.decodeAll
  rw [Entry.decode, decoded]
  exact (merged .empty).trans entry.foldlM_merge_fields

end Interspersed

/-- Foreign fields do no harm. Put between any two fields of an entry, before the first or behind
the last, or at all of these places at once, a row of them leaves the entry as it was. Their
contents are any, and groups nest to 100 as long as the innermost of so many is empty. -/
theorem foreign_fields_ignored (entry : Entry) :
    (∀ before after extras, entry.fields = before ++ after →
      (∀ extra ∈ extras, extra.WellFormed outerDepth outerDepth ∧ extra.number ∉ Entry.numbers) →
      Entry.decode (encodeFields before ++ (RawField.row extras ++ encodeFields after)) =
        some entry) ∧
    ∀ bytes, Interspersed entry.fields bytes → Entry.decode bytes = some entry := by
  constructor
  · intro before after extras split foreign
    have written := entry.fields_written
    rw [split] at written
    obtain ⟨writtenBefore, writtenAfter⟩ := List.forall_mem_append.mp written
    have behind : Interspersed after (encodeFields after) := by
      simpa using Interspersed.nil.encoded writtenAfter
    apply Interspersed.decode
    rw [split]
    exact (behind.extras foreign).encoded writtenBefore
  · exact fun bytes interspersed => interspersed.decode

namespace RawField

/-- The field inside a number of groups, each of which holds nothing else. -/
def enclose : Nat → RawField → RawField
  | 0, field => field
  | groups + 1, field => ⟨4, [0x23] ++ row [enclose groups field] ++ [0x24]⟩

theorem WellFormed.enclose {plain group : Nat} {field : RawField}
    (formed : field.WellFormed plain group) (groups : Nat) :
    (field.enclose groups).WellFormed (plain + groups) (group + groups) := by
  induction groups with
  | zero => exact formed
  | succ groups ih =>
      have start : Key.Spelling ⟨4, .groupStart⟩ [0x23] := ⟨by decide, by decide⟩
      have stop : Key.Spelling ⟨4, .groupEnd⟩ [0x24] := ⟨by decide, by decide⟩
      exact .group start (List.forall_mem_singleton.mpr ih) stop

/-- One field of each layout, and 100 groups in each other. A key and a number are longer than they
have to be, and a group holds a field with a number that an entry knows. -/
def strays : List RawField :=
  [⟨7, [0xb8, 0x00] ++ [0x85, 0x80, 0x00]⟩, ⟨8, [0x41] ++ [1, 2, 3, 4, 5, 6, 7, 8]⟩,
    ⟨9, [0x4a] ++ ([0x02] ++ [0x08, 0x07])⟩, ⟨10, [0x55] ++ [1, 2, 3, 4]⟩,
    ⟨11, [0x5b] ++ row [⟨1, [0x08] ++ [0x2a]⟩] ++ [0x5c]⟩,
    enclose 99 ⟨4, [0x23] ++ row [] ++ [0x24]⟩]

theorem strays_wellFormed : ∀ stray ∈ strays, stray.WellFormed outerDepth outerDepth := by
  have five : Varint.Spelling [0x85, 0x80, 0x00] 5 := by decide
  have answer : Varint.Spelling [0x2a] 42 := by decide
  have known : WellFormed 99 99 ⟨1, [0x08] ++ [0x2a]⟩ :=
    .plain ⟨by decide, by decide⟩ (.varint answer)
  have hollow : WellFormed 1 1 ⟨4, [0x23] ++ row [] ++ [0x24]⟩ :=
    .group ⟨by decide, by decide⟩ nofun ⟨by decide, by decide⟩
  rw [strays]
  simp only [List.forall_mem_cons]
  refine ⟨?_, ?_, ?_, ?_, ?_, hollow.enclose 99, nofun⟩
  · exact .plain ⟨by decide, by decide⟩ (.varint five)
  · exact .plain ⟨by decide, by decide⟩ (.fixed64 rfl)
  · exact .plain ⟨by decide, by decide⟩ (.delimited (by decide))
  · exact .plain ⟨by decide, by decide⟩ (.fixed32 rfl)
  · exact .group ⟨by decide, by decide⟩ (List.forall_mem_singleton.mpr known)
      ⟨by decide, by decide⟩

end RawField

/-- The fields stand between the index and the numbers. -/
theorem foreign_fields_ignored_between :
    let entry : Entry := ⟨5, some 3, some ⟨100, 10, 1000, 50⟩⟩
    (∀ stray ∈ RawField.strays,
      stray.WellFormed outerDepth outerDepth ∧ stray.number ∉ Entry.numbers) ∧
    entry.fields = entry.fields.take 2 ++ entry.fields.drop 2 ∧
    Entry.decode (encodeFields (entry.fields.take 2) ++
      (RawField.row RawField.strays ++ encodeFields (entry.fields.drop 2))) = some entry := by
  intro entry
  have foreign : ∀ stray ∈ RawField.strays,
      stray.WellFormed outerDepth outerDepth ∧ stray.number ∉ Entry.numbers :=
    fun stray member => ⟨RawField.strays_wellFormed stray member, by revert stray; decide⟩
  have split : entry.fields = entry.fields.take 2 ++ entry.fields.drop 2 :=
    (List.take_append_drop 2 entry.fields).symm
  exact ⟨foreign, split, (foreign_fields_ignored entry).1 _ _ _ split foreign⟩

/-- The innermost of 100 groups takes no fields, so a number in it makes the entry unreadable. -/
theorem full_groups_refused :
    let entry : Entry := ⟨5, some 0, none⟩
    let extra := RawField.enclose 100 ⟨5, [0x28] ++ [0x01]⟩
    (extra.WellFormed (outerDepth + 1) outerDepth ∧ extra.number ∉ Entry.numbers) ∧
      Entry.decode (encodeFields entry.fields ++ (RawField.row [extra] ++ encodeFields [])) =
        none := by
  have one : Varint.Spelling [0x01] 1 := by decide
  have plain : RawField.WellFormed 1 0 ⟨5, [0x28] ++ [0x01]⟩ :=
    .plain ⟨by decide, by decide⟩ (.varint one)
  exact ⟨⟨plain.enclose 100, by decide⟩, by decide +kernel⟩

end MeterSync.Wire
