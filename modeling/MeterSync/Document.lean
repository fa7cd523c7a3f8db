/-!
# Documents

What a typed reader may ask of a document, whatever the notation it is written in. A record is
given by name, or by position where the notation allows it, and what is neither asked for nor in
the way is passed over. A document may refer to another place; only what is read is followed there.
-/

set_option autoImplicit false

namespace MeterSync

/-- The questions that a document answers, once it has been followed to where it stands. A word is
a text that names one of several choices, and a notation may have ways of its own to write one. A
document that only claims to be null is neither null nor anything else. -/
class Document (Δ : Type) (Reading : outParam (Type → Type)) where
  follow : Δ → Reading Δ
  asNull? : Δ → Option Bool
  asText? : Δ → Option String
  asWord? : Δ → Option String
  asNatural? : Δ → Option Nat
  asItems? : Δ → Option (List Δ)
  asPositions? : Δ → Option (List Δ)
  asMembers? : Δ → Option (List (Δ × Δ))

namespace Document

variable {Δ α : Type} {Reading : Type → Type} [Monad Reading] [MonadLiftT Option Reading]

def refuse : Reading α :=
  liftM (none : Option α)

variable [Document Δ Reading]

def ask (question : Δ → Option α) (document : Δ) : Reading α := do
  liftM (question (← follow document))

/-! ## Texts and numbers -/

def text? (document : Δ) : Reading String :=
  ask asText? document

def word? (document : Δ) : Reading String :=
  ask asWord? document

def byte? (document : Δ) : Reading UInt8 := do
  let number ← ask asNatural? document
  if number < UInt8.size then return .ofNat number else refuse

def half? (document : Δ) : Reading UInt32 := do
  let number ← ask asNatural? document
  if number < UInt32.size then return .ofNat number else refuse

def whole? (document : Δ) : Reading UInt64 := do
  let number ← ask asNatural? document
  if number < UInt64.size then return .ofNat number else refuse

/-! ## Choices and lists -/

/-- A value that may be left open by a null. -/
def nullable? (read : Δ → Reading α) (document : Δ) : Reading (Option α) := do
  let document ← follow document
  if ← liftM (asNull? document) then return none else return some (← read document)

def list? (read : Δ → Reading α) (document : Δ) : Reading (List α) := do
  (← ask asItems? document).mapM read

/-! ## Records -/

/-- The members of a record with the texts of their names. -/
def named? (members : List (Δ × Δ)) : Reading (List (String × Δ)) :=
  members.mapM fun member => do return (← text? member.1, member.2)

/-- The members of a record by name. By position, the members follow the order of the names, and
the last ones may be missing; by name, no known member may be repeated. -/
def record? (names : List String) (document : Δ) : Reading (List (String × Δ)) := do
  let document ← follow document
  match asMembers? document, asPositions? document with
  | some members, _ =>
    let record ← named? members
    if ((record.map (·.1)).filter (· ∈ names)).Nodup then return record else refuse
  | none, some items =>
    if items.length ≤ names.length then return names.zip items else refuse
  | none, none => refuse

def required? (record : List (String × Δ)) (name : String) (read : Δ → Reading α) :
    Reading α :=
  match record.lookup name with
  | none => refuse
  | some document => read document

/-- A member that stands for a fallback where it is missing. -/
def optional? (record : List (String × Δ)) (name : String) (fallback : α)
    (read : Δ → Reading α) : Reading α :=
  match record.lookup name with
  | none => pure fallback
  | some document => read document

end Document

end MeterSync
