import MeterSync.Wire.Field

/-!
# Meter entries

One meter cell as it goes over the wire to a device and back. The index and the configuration are
messages of their own, so an absent one is not the same as one whose numbers are all zero.
-/

set_option autoImplicit false

namespace MeterSync.Wire

/-- The two rates of a cell with their bursts: committed first, then peak. -/
structure Config where
  cir : Int64
  cburst : Int64
  pir : Int64
  pburst : Int64
deriving DecidableEq, Repr

/-- A meter cell, by the wire id of its array and its index. A cell without configuration is in
its default state. -/
structure Entry where
  meterId : UInt32
  index : Option Int64
  config : Option Config
deriving DecidableEq, Repr

/-- The depth to which groups nest in a message that stands by itself. -/
def outerDepth : Nat := 100

/-- The depth to which groups nest in a message that is a field of another. -/
def innerDepth : Nat := outerDepth - 1

/-- A signed number as a field. Zero is left out. -/
def int64Field (number : Nat) (value : Int64) : List Field :=
  if value = 0 then [] else [⟨number, .varint value.toUInt64⟩]

def encodeFields (fields : List Field) : List UInt8 :=
  fields.flatMap Field.encode

/-! ## Index -/

def indexFields (index : Int64) : List Field :=
  int64Field 1 index

def mergeIndex (index : Int64) (field : Field) : Option Int64 :=
  match field.number, field.payload with
  | 1, .varint value => some value.toInt64
  | 1, _ => none
  | _, _ => some index

def mergeIndexBytes (depth : Nat) (index : Int64) (bytes : List UInt8) : Option Int64 :=
  match Field.decodeAll depth bytes with
  | none => none
  | some fields => fields.foldlM mergeIndex index

def encodeIndex (index : Int64) : List UInt8 :=
  encodeFields (indexFields index)

def decodeIndex (bytes : List UInt8) : Option Int64 :=
  mergeIndexBytes outerDepth 0 bytes

/-! ## Configuration -/

namespace Config

def zero : Config :=
  ⟨0, 0, 0, 0⟩

def fields (config : Config) : List Field :=
  int64Field 1 config.cir ++ int64Field 2 config.cburst ++ int64Field 3 config.pir ++
    int64Field 4 config.pburst

def merge (config : Config) (field : Field) : Option Config :=
  match field.number, field.payload with
  | 1, .varint value => some { config with cir := value.toInt64 }
  | 2, .varint value => some { config with cburst := value.toInt64 }
  | 3, .varint value => some { config with pir := value.toInt64 }
  | 4, .varint value => some { config with pburst := value.toInt64 }
  | 1, _ => none
  | 2, _ => none
  | 3, _ => none
  | 4, _ => none
  | _, _ => some config

def mergeBytes (depth : Nat) (config : Config) (bytes : List UInt8) : Option Config :=
  match Field.decodeAll depth bytes with
  | none => none
  | some fields => fields.foldlM merge config

def encode (config : Config) : List UInt8 :=
  encodeFields config.fields

def decode (bytes : List UInt8) : Option Config :=
  mergeBytes outerDepth zero bytes

end Config

/-! ## Entry -/

namespace Entry

def empty : Entry :=
  ⟨0, none, none⟩

/-- The fields of an entry, by number. An index or configuration that is set is always written,
even if it has no fields of its own. -/
def fields (entry : Entry) : List Field :=
  (if entry.meterId = 0 then [] else [⟨1, .varint entry.meterId.toUInt64⟩]) ++
    (entry.index.map fun index => Field.mk 2 (.delimited (encodeIndex index))).toList ++
    (entry.config.map fun config => Field.mk 3 (.delimited config.encode)).toList

/-- An entry after one more field. Of a number the last one counts, and of a message the fields
are merged. An array id keeps its low 32 bits. -/
def merge (entry : Entry) (field : Field) : Option Entry :=
  match field.number, field.payload with
  | 1, .varint value => some { entry with meterId := value.toUInt32 }
  | 2, .delimited bytes =>
    (mergeIndexBytes innerDepth (entry.index.getD 0) bytes).map fun index =>
      { entry with index := some index }
  | 3, .delimited bytes =>
    ((entry.config.getD .zero).mergeBytes innerDepth bytes).map fun config =>
      { entry with config := some config }
  | 1, _ => none
  | 2, _ => none
  | 3, _ => none
  | _, _ => some entry

def encode (entry : Entry) : List UInt8 :=
  encodeFields entry.fields

def decode (bytes : List UInt8) : Option Entry :=
  match Field.decodeAll outerDepth bytes with
  | none => none
  | some fields => fields.foldlM merge empty

end Entry

end MeterSync.Wire
