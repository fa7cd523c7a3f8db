import Std.Data.TreeMap

/-!
# JSON values

A value as the grammar has it. A number with a fraction or an exponent is kept apart from an
integer, and an object keeps its members in order, repeated names included.
-/

set_option autoImplicit false

namespace MeterSync

/-- A JSON value. A decimal is its digits times a power of ten, so that minus zero is one too. A
string is absent where an escape in it names half a surrogate pair, which stands for no text. -/
inductive Json where
  | null
  | bool (value : Bool)
  | integer (value : Int)
  | decimal (negative : Bool) (digits : Nat) (exponent : Int)
  | string (text : Option String)
  | array (items : List Json)
  | object (members : List (Option String × Json))
deriving Repr

namespace Json

def text (text : String) : Json :=
  .string (some text)

def natural (number : Nat) : Json :=
  .integer (Int.ofNat number)

def record (members : List (String × Json)) : Json :=
  .object (members.map fun member => (some member.1, member.2))

/-- The member with a name, the last one if the name is repeated. -/
def member? (value : Json) (name : String) : Option Json :=
  match value with
  | .object members => (members.reverse.find? fun member => member.1 = some name).map (·.2)
  | _ => none

/-- Members by ascending name. Of members with one name the last one is kept. -/
def collapse (members : List (Option String × Json)) : List (Option String × Json) :=
  (members.foldl (fun table member => table.insert member.1 member.2)
    (∅ : Std.TreeMap (Option String) Json)).toList

mutual
def canonical : Json → Json
  | .array items => .array (canonicalItems items)
  | .object members => .object (collapse (canonicalMembers members))
  | .null => .null
  | .bool value => .bool value
  | .integer value => .integer value
  | .decimal negative digits exponent => .decimal negative digits exponent
  | .string text => .string text

def canonicalItems : List Json → List Json
  | [] => []
  | item :: items => item.canonical :: canonicalItems items

def canonicalMembers : List (Option String × Json) → List (Option String × Json)
  | [] => []
  | (name, value) :: members => (name, value.canonical) :: canonicalMembers members
end

end Json

end MeterSync
