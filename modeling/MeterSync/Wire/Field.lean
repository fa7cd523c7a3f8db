import MeterSync.Wire.Varint

/-!
# Fields

A message is a row of fields, each with a number, and reading one splits the bytes into that row.
Fields that no message knows are read over, groups included: a group ends at the end mark with its
own number, and everything inside it has to be well formed.
-/

set_option autoImplicit false

namespace MeterSync.Wire

/-- How the bytes after a key are laid out. -/
inductive Layout where
  | varint
  | fixed64
  | delimited
  | groupStart
  | groupEnd
  | fixed32
deriving DecidableEq, Repr

/-- The layout with this code; the codes 6 and 7 are free. -/
def Layout.ofCode? : Nat → Option Layout
  | 0 => some .varint
  | 1 => some .fixed64
  | 2 => some .delimited
  | 3 => some .groupStart
  | 4 => some .groupEnd
  | 5 => some .fixed32
  | _ => none

def Layout.code : Layout → Nat
  | .varint => 0
  | .fixed64 => 1
  | .delimited => 2
  | .groupStart => 3
  | .groupEnd => 4
  | .fixed32 => 5

structure Key where
  number : Nat
  layout : Layout
deriving DecidableEq, Repr

/-- The bytes of a key: the field number above three bits of layout. -/
def Key.encode (key : Key) : List UInt8 :=
  Varint.encode (UInt64.ofNat (key.number * 8 + key.layout.code))

/-- The key at the head of the bytes. It has at most 32 bits, and no field has the number 0. -/
def Key.decode (bytes : List UInt8) : Option (Key × List UInt8) :=
  match Varint.decode bytes with
  | none => none
  | some (value, rest) =>
    if value.toNat < UInt32.size ∧ 8 ≤ value.toNat then
      match Layout.ofCode? (value.toNat % 8) with
      | none => none
      | some layout => some (⟨value.toNat / 8, layout⟩, rest)
    else none

theorem Key.decode_length {bytes rest : List UInt8} {key : Key}
    (read : Key.decode bytes = some (key, rest)) : rest.length < bytes.length := by
  unfold Key.decode at read
  split at read
  · simp at read
  · rename_i found
    split at read
    · split at read
      · simp at read
      · simp only [Option.some.injEq, Prod.mk.injEq] at read
        exact read.2 ▸ Varint.decode_length found
    · simp at read

/-- What a field holds. Messages of this library hold varints and delimited bytes; the content of
any other field is not kept. -/
inductive Payload where
  | varint (value : UInt64)
  | delimited (bytes : List UInt8)
  | other
deriving DecidableEq, Repr

structure Field where
  number : Nat
  payload : Payload
deriving DecidableEq, Repr

/-- Drops a number of bytes that have to be there. -/
def advance (count : Nat) (bytes : List UInt8) : Option (List UInt8) :=
  if count ≤ bytes.length then some (bytes.drop count) else none

theorem advance_length {count : Nat} {bytes rest : List UInt8}
    (moved : advance count bytes = some rest) : rest.length ≤ bytes.length := by
  unfold advance at moved
  split at moved
  · simp only [Option.some.injEq] at moved
    simp [← moved]
  · simp at moved

/-- Drops the content of a field that is no group. -/
def skipPlain (layout : Layout) (bytes : List UInt8) : Option (List UInt8) :=
  match layout with
  | .varint => (Varint.decode bytes).map (·.2)
  | .fixed64 => advance 8 bytes
  | .delimited =>
    match Varint.decode bytes with
    | none => none
    | some (count, rest) => advance count.toNat rest
  | .fixed32 => advance 4 bytes
  | .groupStart => none
  | .groupEnd => none

theorem skipPlain_length {layout : Layout} {bytes rest : List UInt8}
    (skipped : skipPlain layout bytes = some rest) : rest.length ≤ bytes.length := by
  cases layout with
  | varint =>
      obtain ⟨⟨value, tail⟩, found, same⟩ := Option.map_eq_some_iff.mp skipped
      exact same ▸ Nat.le_of_lt (Varint.decode_length found)
  | fixed64 => exact advance_length skipped
  | delimited =>
      simp only [skipPlain] at skipped
      split at skipped
      · simp at skipped
      · rename_i found
        exact Nat.le_trans (advance_length skipped) (Nat.le_of_lt (Varint.decode_length found))
  | fixed32 => exact advance_length skipped
  | groupStart => simp [skipPlain] at skipped
  | groupEnd => simp [skipPlain] at skipped

/-- Drops the bytes up to the end of the outermost open group. The open groups are given by their
numbers, the innermost first. A field may stand inside fewer than `depth` open groups. -/
def skipGroups (depth : Nat) (opened : List Nat) (bytes : List UInt8) : Option (List UInt8) :=
  match opened with
  | [] => some bytes
  | number :: outer =>
    match read : Key.decode bytes with
    | none => none
    | some (key, rest) =>
      have : rest.length < bytes.length := Key.decode_length read
      match key.layout with
      | .groupEnd => if key.number = number then skipGroups depth outer rest else none
      | .groupStart =>
        if opened.length < depth then skipGroups depth (key.number :: opened) rest else none
      | layout =>
        if opened.length < depth then
          match skipped : skipPlain layout rest with
          | none => none
          | some after =>
            have : after.length ≤ rest.length := skipPlain_length skipped
            skipGroups depth opened after
        else none
termination_by bytes.length

theorem skipGroups_length {depth : Nat} {opened : List Nat} {bytes rest : List UInt8}
    (skipped : skipGroups depth opened bytes = some rest) : rest.length ≤ bytes.length := by
  fun_induction skipGroups depth opened bytes <;> grind

/-- The field at the head of the bytes, and the bytes after it. -/
def Field.decode (depth : Nat) (bytes : List UInt8) : Option (Field × List UInt8) :=
  match Key.decode bytes with
  | none => none
  | some (key, rest) =>
    match key.layout with
    | .varint => (Varint.decode rest).map fun read => (⟨key.number, .varint read.1⟩, read.2)
    | .delimited =>
      match Varint.decode rest with
      | none => none
      | some (count, rest) =>
        (advance count.toNat rest).map fun after =>
          (⟨key.number, .delimited (rest.take count.toNat)⟩, after)
    | .groupStart =>
      (skipGroups depth [key.number] rest).map fun after => (⟨key.number, .other⟩, after)
    | layout => (skipPlain layout rest).map fun after => (⟨key.number, .other⟩, after)

theorem Field.decode_length {depth : Nat} {bytes rest : List UInt8} {field : Field}
    (read : Field.decode depth bytes = some (field, rest)) : rest.length < bytes.length := by
  unfold Field.decode at read
  split at read
  · simp at read
  · rename_i keyRead
    have shorter := Key.decode_length keyRead
    split at read
    · obtain ⟨found, decoded, same⟩ := Option.map_eq_some_iff.mp read
      have := Varint.decode_length decoded
      simp only [Prod.mk.injEq] at same
      rw [← same.2]
      omega
    · split at read
      · simp at read
      · rename_i decoded
        obtain ⟨after, moved, same⟩ := Option.map_eq_some_iff.mp read
        have := Varint.decode_length decoded
        have := advance_length moved
        simp only [Prod.mk.injEq] at same
        rw [← same.2]
        omega
    · obtain ⟨after, skipped, same⟩ := Option.map_eq_some_iff.mp read
      have := skipGroups_length skipped
      simp only [Prod.mk.injEq] at same
      rw [← same.2]
      omega
    · obtain ⟨after, skipped, same⟩ := Option.map_eq_some_iff.mp read
      have := skipPlain_length skipped
      simp only [Prod.mk.injEq] at same
      rw [← same.2]
      omega

/-- The fields of a message, in the order of its bytes. Groups nest to the given depth. -/
def Field.decodeAll (depth : Nat) (bytes : List UInt8) : Option (List Field) :=
  if bytes = [] then some []
  else
    match read : Field.decode depth bytes with
    | none => none
    | some (field, rest) =>
      have : rest.length < bytes.length := Field.decode_length read
      (Field.decodeAll depth rest).map (field :: ·)
termination_by bytes.length

/-- The bytes of a field. A field whose content was not kept has none. -/
def Field.encode (field : Field) : List UInt8 :=
  match field.payload with
  | .varint value => Key.encode ⟨field.number, .varint⟩ ++ Varint.encode value
  | .delimited bytes =>
    Key.encode ⟨field.number, .delimited⟩ ++ Varint.encode (UInt64.ofNat bytes.length) ++ bytes
  | .other => []

end MeterSync.Wire
