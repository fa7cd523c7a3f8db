import MeterSync.Document
import MeterSync.Json

/-!
# JSON values as documents

A number is a plain integer, a list is an array, and a record is an object whose member names all
stand for texts, or an array. A word may also be written as an object that gives it a null. Nothing
refers to another place.
-/

set_option autoImplicit false

namespace MeterSync.Json

def isNull : Json → Bool
  | .null => true
  | _ => false

def text? : Json → Option String
  | .string text => text
  | _ => none

/-- The word that a string or an object with one member spells. -/
def word? : Json → Option String
  | .string text => text
  | .object [(name, .null)] => name
  | _ => none

def natural? : Json → Option Nat
  | .integer (.ofNat number) => some number
  | _ => none

def flag? : Json → Option Bool
  | .bool value => some value
  | _ => none

def items? : Json → Option (List Json)
  | .array items => some items
  | _ => none

/-- The members of an object, each name as a string. -/
def members? : Json → Option (List (Json × Json))
  | .object members => some (members.map fun member => (.string member.1, member.2))
  | _ => none

instance : Document Json Option where
  follow := some
  asNull? value := some value.isNull
  asText? := text?
  asWord? := word?
  asNatural? := natural?
  asItems? := items?
  asPositions? := items?
  asMembers? := members?

end MeterSync.Json
