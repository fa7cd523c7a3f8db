import Std.Data.TreeMap
import MeterSync.Document
import MeterSync.Yaml.Node

/-!
# Nodes as documents

A scalar has a text however it is written; a number or a null is plain, unless a tag says what the
scalar is. What is left empty reads as an empty list or an empty record. References are followed as
they are read, which a document may ask for only so often in proportion to its size.
-/

set_option autoImplicit false

namespace MeterSync.Yaml

/-! ## Scalars -/

def nullWords : List String := ["~", "null", "Null", "NULL"]

/-- The text stands for null where nothing says otherwise. -/
def isNullText (text : String) : Bool :=
  text = "" || nullWords.contains text

def hasIdleZero : List Char → Bool
  | '0' :: c :: rest => (c :: rest).all Char.isDigit
  | _ => false

/-- The number that a plain scalar spells: decimal, hexadecimal, octal or binary, behind an optional
plus sign. -/
def naturalOf? (text : List Char) : Option Nat :=
  let unsigned :=
    match text with
    | '+' :: rest => rest
    | cs => cs
  match unsigned with
  | '0' :: 'x' :: digits => ofDigits? 16 digits
  | '0' :: 'o' :: digits => ofDigits? 8 digits
  | '0' :: 'b' :: digits => ofDigits? 2 digits
  | digits => if hasIdleZero digits then none else ofDigits? 10 digits

namespace Node

/-! ## Questions -/

/-- The node is null. A plain scalar under the tag of null has to be a word for it, and under
another tag it is none. -/
def asNull? : Node → Option Bool
  | .scalar none .plain text => some (isNullText text)
  | .scalar (some tag) .plain text =>
    if tag = Tag.null then
      if nullWords.contains text then some true else none
    else some false
  | _ => some false

def asText? : Node → Option String
  | .scalar _ _ text => some text
  | _ => none

/-- The word that a scalar spells, or the one that its tag names, to which the scalar must then add
nothing. -/
def asWord? : Node → Option String
  | .scalar tag style text =>
    match tag.bind Tag.name? with
    | none => some text
    | some name => if style = .plain && isNullText text then some name else none
  | _ => none

/-- The number of a scalar, which is plain, or literal under the tag of integers. -/
def asNatural? : Node → Option Nat
  | .scalar tag style text =>
    if style = .plain || (style = .literal && tag = some Tag.integer) then naturalOf? text.toList
    else none
  | _ => none

def asItems? : Node → Option (List Node)
  | .sequence items => some items
  | .scalar _ .plain "" => some []
  | _ => none

def asMembers? : Node → Option (List (Node × Node))
  | .mapping members => some members
  | .scalar _ .plain "" => some []
  | _ => none

end Node

/-! ## References -/

abbrev Places := Std.TreeMap Nat Node

/-- Reading a document whose references can be followed, as often as is left. -/
abbrev Reading := ReaderT Places (StateT Nat Option)

namespace Reading

/-- The node with a number, for one of the times that are left. -/
def find (number : Nat) : Reading Node := do
  match ← get with
  | 0 => failure
  | left + 1 =>
    set left
    liftM ((← read).get? number)

/-- The node that is meant by one that may only refer to it. -/
def follow : Node → Reading Node
  | .reference number => find number
  | .anchored _ node => return node
  | node => return node

/-- The times that references may be followed for every step that it takes to tell the document. -/
def patience : Nat := 100

def run {α : Type} (read : Node → Reading α) (document : Node) : Option α :=
  let places := Std.TreeMap.ofList document.places
  (StateT.run (ReaderT.run (read document) places) (patience * document.events)).map (·.1)

end Reading

instance : Document Node Reading where
  follow := Reading.follow
  asNull? := Node.asNull?
  asText? := Node.asText?
  asWord? := Node.asWord?
  asNatural? := Node.asNatural?
  asItems? := Node.asItems?
  asPositions? _ := none
  asMembers? := Node.asMembers?

end MeterSync.Yaml
