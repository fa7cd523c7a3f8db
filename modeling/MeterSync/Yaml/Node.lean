import MeterSync.Yaml.Token

/-!
# Nodes

A YAML document as a tree. An anchor gives the node behind it a number, and an alias refers to such
a number, so that the tree is finite even where a node refers to itself. A name that is anchored
once more stands for the later node from there on. The number of an anchor is the number of names
before it; two nodes may share one, and then it leads to the later of them.
-/

set_option autoImplicit false

namespace MeterSync.Yaml

/-- A node of a document. Only the tag of a scalar may matter to a reader. -/
inductive Node where
  | scalar (tag : Option Tag) (style : Style) (text : String)
  | sequence (items : List Node)
  | mapping (members : List (Node × Node))
  | reference (number : Nat)
  | anchored (number : Nat) (node : Node)
deriving Repr

namespace Node

def empty : Node :=
  .scalar none .plain ""

/-! ## Measures -/

mutual
/-- The number of steps that it takes to tell the tree: one for each leaf, and one for each end of a
collection. -/
def events : Node → Nat
  | .scalar .. => 1
  | .reference _ => 1
  | .sequence items => 2 + eventsOfItems items
  | .mapping members => 2 + eventsOfMembers members
  | .anchored _ node => node.events

def eventsOfItems : List Node → Nat
  | [] => 0
  | item :: items => item.events + eventsOfItems items

def eventsOfMembers : List (Node × Node) → Nat
  | [] => 0
  | (key, value) :: members => key.events + value.events + eventsOfMembers members
end

mutual
/-- The anchored nodes in the order of their anchors, each with its number. -/
def places : Node → List (Nat × Node)
  | .scalar .. => []
  | .reference _ => []
  | .sequence items => placesOfItems items
  | .mapping members => placesOfMembers members
  | .anchored number node => (number, node) :: node.places

def placesOfItems : List Node → List (Nat × Node)
  | [] => []
  | item :: items => item.places ++ placesOfItems items

def placesOfMembers : List (Node × Node) → List (Nat × Node)
  | [] => []
  | (key, value) :: members => key.places ++ value.places ++ placesOfMembers members
end

/-! ## Sources -/

/-- The tokens still to be read, the handles of tags, and the anchors so far by name. -/
structure Source where
  tokens : List Token
  handles : Handles
  anchors : List (String × Nat)

/-- Reading a part of a document from its tokens. -/
abbrev Reader := StateT Source Option

def peek : Reader (Option Token) := do
  return (← get).tokens.head?

def skip : Reader Unit :=
  modify fun source => { source with tokens := source.tokens.tail }

/-- The number of a new anchor, for which its name stands from now on. -/
def bindName (name : String) : Reader Nat := do
  let anchors := (← get).anchors
  let number := anchors.length
  let others := anchors.filter (·.1 ≠ name)
  modify fun source => { source with anchors := (name, number) :: others }
  return number

/-- The number of the anchor that an alias names. -/
def numberOf (name : String) : Reader Nat := do
  liftM ((← get).anchors.lookup name)

/-- A tag with its handle replaced by what the handle stands for. -/
def resolve (handle : String) (tag : Tag) : Reader Tag := do
  if handle = "" then return tag
  else
    let handles := (← get).handles ++ Directive.knownHandles
    return (← liftM (handles.lookup handle)) ++ tag

/-- The number of an anchor, if one is written here. -/
def anchor? : Reader (Option Nat) := do
  match ← peek with
  | some (.anchor name) => skip; return some (← bindName name)
  | _ => return none

def tag? : Reader (Option Tag) := do
  match ← peek with
  | some (.tag handle tag) => skip; return some (← resolve handle tag)
  | _ => return none

/-- What stands in front of the content of a node: an anchor and a tag, in either order. -/
def properties : Reader (Option Nat × Option Tag) := do
  match ← peek with
  | some (.tag ..) =>
    let tag ← tag?
    return (← anchor?, tag)
  | _ =>
    let anchor ← anchor?
    return (anchor, ← tag?)

/-- A node under the anchor in front of it. -/
def labelled : Option Nat → Node → Node
  | none, node => node
  | some number, node => .anchored number node

/-- The node before one of some tokens is empty. -/
def unlessNext (tokens : List Token) (read : Reader Node) : Reader Node := do
  match ← peek with
  | none => read
  | some token => if tokens.contains token then return empty else read

/-- Passes over the separator between the items of a flow collection, unless this is the first. -/
def separated (first : Bool) : Reader Unit := do
  if !first then
    match ← peek with
    | some .separator => skip
    | _ => failure

/-! ## Grammar -/

mutual
/-- Reads a node. Only some places admit a block, and fewer a sequence that is not indented. -/
def read : Nat → Bool → Bool → Reader Node
  | 0, _, _ => failure
  | fuel + 1, block, flat => do
    match ← peek with
    | some (.reference name) => skip; return .reference (← numberOf name)
    | _ =>
      let (anchor, tag) ← properties
      return labelled anchor (← readContent fuel block flat (anchor.isSome || tag.isSome) tag)

/-- Reads a node behind its anchor and its tag, after which it may be empty. A scalar keeps its tag
also where that is the mark alone, and then spells no word. -/
def readContent : Nat → Bool → Bool → Bool → Option Tag → Reader Node
  | 0, _, _, _, _ => failure
  | fuel + 1, block, flat, optional, tag => do
    match ← peek, block, flat with
    | some (.scalar style text), _, _ => skip; return .scalar tag style text
    | some .flowSequence, _, _ => skip; return .sequence (← flowItems fuel true)
    | some .flowMapping, _, _ => skip; return .mapping (← flowMembers fuel true)
    | some .entry, _, true => return .sequence (← flatItems fuel)
    | some .blockSequence, true, _ => skip; return .sequence (← blockItems fuel)
    | some .blockMapping, true, _ => skip; return .mapping (← blockMembers fuel)
    | _, _, _ => if optional then return .scalar tag .plain "" else failure

/-- Reads the items of a block sequence up to its end. -/
def blockItems : Nat → Reader (List Node)
  | 0 => failure
  | fuel + 1 => do
    match ← peek with
    | some .entry =>
      skip
      let item ← unlessNext [.entry, .blockEnd] (read fuel true false)
      return item :: (← blockItems fuel)
    | some .blockEnd => skip; return []
    | _ => failure

/-- Reads the items of a sequence that is not indented below its key. -/
def flatItems : Nat → Reader (List Node)
  | 0 => failure
  | fuel + 1 => do
    match ← peek with
    | some .entry =>
      skip
      let item ← unlessNext [.entry, .key, .value, .blockEnd] (read fuel true false)
      return item :: (← flatItems fuel)
    | _ => return []

/-- Reads the members of a block mapping up to its end. -/
def blockMembers : Nat → Reader (List (Node × Node))
  | 0 => failure
  | fuel + 1 => do
    match ← peek with
    | some .key =>
      skip
      let key ← unlessNext [.key, .value, .blockEnd] (read fuel true true)
      let value ← blockValue fuel
      return (key, value) :: (← blockMembers fuel)
    | some .blockEnd => skip; return []
    | _ => failure

/-- Reads the value of a member of a block mapping. -/
def blockValue : Nat → Reader Node
  | 0 => failure
  | fuel + 1 => do
    match ← peek with
    | some .value =>
      skip
      unlessNext [.key, .value, .blockEnd] (read fuel true true)
    | _ => return empty

/-- Reads the items of a flow sequence up to its end. An item with a key is a mapping of one
member. -/
def flowItems : Nat → Bool → Reader (List Node)
  | 0, _ => failure
  | fuel + 1, first => do
    match ← peek with
    | some .flowSequenceEnd => skip; return []
    | _ =>
      separated first
      match ← peek with
      | some .key =>
        skip
        let key ← flowKey fuel
        let value ← flowValue fuel .flowSequenceEnd
        return .mapping [(key, value)] :: (← flowItems fuel false)
      | some .flowSequenceEnd => skip; return []
      | _ =>
        let item ← read fuel false false
        return item :: (← flowItems fuel false)

/-- Reads the key of an item of a flow sequence. The token behind an empty key is lost. -/
def flowKey : Nat → Reader Node
  | 0 => failure
  | fuel + 1 => do
    match ← peek with
    | some .value => skip; return empty
    | some .separator => skip; return empty
    | some .flowSequenceEnd => skip; return empty
    | _ => read fuel false false

/-- Reads the value of a member of a flow collection with this end. -/
def flowValue : Nat → Token → Reader Node
  | 0, _ => failure
  | fuel + 1, ending => do
    match ← peek with
    | some .value =>
      skip
      unlessNext [.separator, ending] (read fuel false false)
    | _ => return empty

/-- Reads the members of a flow mapping up to its end. A member without a mark is a key alone. -/
def flowMembers : Nat → Bool → Reader (List (Node × Node))
  | 0, _ => failure
  | fuel + 1, first => do
    match ← peek with
    | some .flowMappingEnd => skip; return []
    | _ =>
      separated first
      match ← peek with
      | some .key =>
        skip
        let key ← unlessNext [.value, .separator, .flowMappingEnd] (read fuel false false)
        let value ← flowValue fuel .flowMappingEnd
        return (key, value) :: (← flowMembers fuel false)
      | some .flowMappingEnd => skip; return []
      | _ =>
        let key ← read fuel false false
        return (key, empty) :: (← flowMembers fuel false)
end

def dropEnds : List Token → List Token
  | .documentEnd :: rest => dropEnds rest
  | tokens => tokens

/-- Takes note of a directive, and tells whether the version is known by now. Only versions 1.1 and
1.2 can be read, and neither a version nor a handle may be told twice. -/
def heed (versioned : Bool) : Directive → Reader Bool
  | .version major minor =>
    if !versioned && major = 1 && (minor = 1 || minor = 2) then return true else failure
  | .handle name tag => do
    if ((← get).handles.lookup name).isSome then failure
    else
      modify fun source => { source with handles := (name, tag) :: source.handles }
      return versioned

/-- Takes note of the directives in front of a document, of which there may be none, and tells
whether there was one. -/
def heedAll : Nat → Bool → Reader Bool
  | 0, _ => failure
  | fuel + 1, versioned => do
    match ← peek with
    | some (.directive directive) =>
      skip
      let versioned ← heed versioned directive
      let _ ← heedAll fuel versioned
      return true
    | _ => return false

/-- Reads a document behind its start, which may be empty. -/
def readStarted (fuel : Nat) : Reader Node := do
  match ← peek with
  | none => return empty
  | some (.directive _) => return empty
  | some .documentStart => return empty
  | some .documentEnd => return empty
  | _ => read fuel true false

/-- Reads the one document of a text. A text without any is an empty document, and directives need
the start of a document behind them. -/
def readDocument (fuel : Nat) : Reader Node := do
  let directed ← heedAll fuel false
  match ← peek with
  | some .documentStart => skip; readStarted fuel
  | none => if directed then failure else return empty
  | _ => if directed then failure else read fuel true false

/-- The document that tokens spell. Nothing may follow it but marks that end it. -/
def ofTokens? (tokens : List Token) : Option Node := do
  let (node, source) ← (readDocument (3 * tokens.length + 3)).run ⟨tokens, [], []⟩
  if (dropEnds source.tokens).isEmpty then some node else none

def parse (text : String) : Option Node :=
  (tokens? text).bind ofTokens?

end Node

end MeterSync.Yaml
