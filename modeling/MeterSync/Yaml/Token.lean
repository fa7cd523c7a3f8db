import MeterSync.Yaml.Block
import MeterSync.Yaml.Directive
import MeterSync.Yaml.Plain
import MeterSync.Yaml.Quoted

/-!
# Tokens

A YAML text as the marks that structure it. Block collections have no marks of their own in the
text; their tokens follow from indentation. A word turns out to be a key only at the colon behind
it, so the place where a key may begin is kept until then.
-/

set_option autoImplicit false

namespace MeterSync.Yaml

inductive Style where
  | plain
  | quoted
  | literal
  | folded
deriving DecidableEq, Repr

/-- A mark, or a scalar with the way it was written. -/
inductive Token where
  | directive (directive : Directive)
  | documentStart
  | documentEnd
  | blockSequence
  | blockMapping
  | blockEnd
  | flowSequence
  | flowSequenceEnd
  | flowMapping
  | flowMappingEnd
  | entry
  | separator
  | key
  | value
  | anchor (name : String)
  | reference (name : String)
  | tag (handle : String) (tag : Tag)
  | scalar (style : Style) (text : String)
deriving DecidableEq, Repr

/-- A place where a key may begin: the number of tokens before it and the glyph it starts with. A
key that starts at the indentation of its block is required to be one. -/
structure KeyStart where
  required : Bool
  position : Nat
  glyph : Glyph

/-- The tokens so far and what decides the next one: the indentations of the open blocks, the place
where a key may begin in the innermost collection and in each one around it, and whether a key may
begin here. There is one place for each flow collection, and one for all blocks. -/
structure Lexer where
  tokens : Array Token
  indentations : List Nat
  keyStart : Option KeyStart
  outerKeyStarts : List (Option KeyStart)
  keyAllowed : Bool

namespace Lexer

def start : Lexer :=
  ⟨#[], [], none, [], true⟩

def inFlow (lexer : Lexer) : Bool :=
  !lexer.outerKeyStarts.isEmpty

/-- The least column at which a block inside the open ones may stand. -/
def floor (lexer : Lexer) : Nat :=
  match lexer.indentations with
  | [] => 0
  | indentation :: _ => indentation + 1

def emit (lexer : Lexer) (token : Token) : Lexer :=
  { lexer with tokens := lexer.tokens.push token }

/-- A token in front of those from a position on. -/
def insert (lexer : Lexer) (position : Nat) (token : Token) : Lexer :=
  { lexer with tokens := lexer.tokens.insertIdxIfInBounds position token }

def allowKey (lexer : Lexer) (keyAllowed : Bool) : Lexer :=
  { lexer with keyAllowed }

/-! ## Blocks -/

/-- Opens a block at a column that is deeper than every open block. -/
def openBlock (lexer : Lexer) (column position : Nat) (token : Token) : Lexer :=
  if lexer.inFlow || column < lexer.floor then lexer
  else { lexer.insert position token with indentations := column :: lexer.indentations }

/-- Closes the innermost open blocks as long as a condition holds of their indentation. -/
def closeBlocks (lexer : Lexer) (closes : Nat → Bool) : Lexer :=
  if lexer.inFlow then lexer
  else
    { lexer with
      tokens := lexer.tokens ++
        ((lexer.indentations.takeWhile closes).map fun _ => Token.blockEnd).toArray
      indentations := lexer.indentations.dropWhile closes }

/-! ## Keys -/

/-- A place for a key that is not needed any more; a required key must not be given up. -/
def releaseKey : Option KeyStart → Option (Option KeyStart)
  | none => some none
  | some keyStart => if keyStart.required then none else some none

/-- No key begins at the place that was kept. -/
def dropKey (lexer : Lexer) : Option Lexer :=
  (releaseKey lexer.keyStart).map fun keyStart => { lexer with keyStart }

/-- Gives up a place that is on an earlier line than a glyph, or too far from it. -/
def expireKey (glyph : Glyph) (keyStart : Option KeyStart) : Option (Option KeyStart) :=
  match keyStart with
  | none => some none
  | some place =>
    if place.glyph.line < glyph.line || place.glyph.index + 1024 < glyph.index then
      releaseKey keyStart
    else some keyStart

/-- Gives up all places from which a key cannot reach as far as a glyph. -/
def expireKeys (lexer : Lexer) (glyph : Glyph) : Option Lexer := do
  let keyStart ← expireKey glyph lexer.keyStart
  let outerKeyStarts ← lexer.outerKeyStarts.mapM (expireKey glyph)
  return { lexer with keyStart, outerKeyStarts }

/-- Keeps the place of a glyph, if a key may begin there. -/
def keepKey (lexer : Lexer) (glyph : Glyph) : Option Lexer :=
  if lexer.keyAllowed then do
    let lexer ← lexer.dropKey
    let required := !lexer.inFlow && lexer.indentations.head? = some glyph.column
    return { lexer with keyStart := some ⟨required, lexer.tokens.size, glyph⟩ }
  else some lexer

/-! ## Marks -/

/-- The edge of a document. It closes all blocks. -/
def documentEdge (lexer : Lexer) (token : Token) : Option Lexer := do
  let lexer ← (lexer.closeBlocks fun _ => true).dropKey
  return (lexer.allowKey false).emit token

/-- A line in front of a document. It closes all blocks. -/
def directive (lexer : Lexer) (rest : List Glyph) : Option (Lexer × List Glyph) := do
  let lexer ← (lexer.closeBlocks fun _ => true).dropKey
  let (directive, rest) ← Directive.directive? rest
  return ((lexer.allowKey false).emit (.directive directive), rest)

def openFlow (lexer : Lexer) (glyph : Glyph) (token : Token) : Option Lexer := do
  let lexer ← lexer.keepKey glyph
  return { lexer with
    tokens := lexer.tokens.push token
    keyStart := none
    outerKeyStarts := lexer.keyStart :: lexer.outerKeyStarts
    keyAllowed := true }

def closeFlow (lexer : Lexer) (token : Token) : Option Lexer := do
  let lexer ← lexer.dropKey
  let lexer := (lexer.allowKey false).emit token
  return match lexer.outerKeyStarts with
    | [] => lexer
    | keyStart :: outerKeyStarts => { lexer with keyStart, outerKeyStarts }

/-- The mark between the items of a flow collection. -/
def separator (lexer : Lexer) : Option Lexer := do
  let lexer ← lexer.dropKey
  return (lexer.allowKey true).emit .separator

/-- The mark in front of an item of a block sequence. -/
def entry (lexer : Lexer) (glyph : Glyph) : Option Lexer := do
  let lexer ←
    if lexer.inFlow then some lexer
    else if lexer.keyAllowed then
      some (lexer.openBlock glyph.column lexer.tokens.size .blockSequence)
    else none
  let lexer ← lexer.dropKey
  return (lexer.allowKey true).emit .entry

def key (lexer : Lexer) (glyph : Glyph) : Option Lexer := do
  let lexer ←
    if lexer.inFlow then some lexer
    else if lexer.keyAllowed then
      some (lexer.openBlock glyph.column lexer.tokens.size .blockMapping)
    else none
  let lexer ← lexer.dropKey
  return (lexer.allowKey (!lexer.inFlow)).emit .key

/-- The mark in front of a value. If a key may have begun somewhere, it did, and the tokens that
say so are put there. -/
def value (lexer : Lexer) (glyph : Glyph) : Option Lexer :=
  match lexer.keyStart with
  | some place =>
    let lexer := lexer.insert place.position .key
    let lexer := lexer.openBlock place.glyph.column place.position .blockMapping
    some (({ lexer with keyStart := none }.allowKey false).emit .value)
  | none =>
    if lexer.inFlow then some ((lexer.allowKey false).emit .value)
    else if lexer.keyAllowed then
      let lexer := lexer.openBlock glyph.column lexer.tokens.size .blockMapping
      some ((lexer.allowKey true).emit .value)
    else none

/-! ## Names and scalars -/

/-- The name of an anchor, which ends with a blank or with one of a few marks. -/
def name? (glyphs : List Glyph) : Option (String × List Glyph) :=
  let name := glyphs.takeWhile fun glyph => isNameChar glyph.char
  let rest := glyphs.dropWhile fun glyph => isNameChar glyph.char
  if name.isEmpty then none
  else if atWordEnd rest || nextIs ['?', ':', ',', ']', '}', '%', '@', '\x60'] rest then
    some (String.ofList (name.map (·.char)), rest)
  else none

def named (lexer : Lexer) (glyph : Glyph) (rest : List Glyph) (token : String → Token) :
    Option (Lexer × List Glyph) := do
  let lexer ← lexer.keepKey glyph
  let (name, rest) ← name? rest
  return ((lexer.allowKey false).emit (token name), rest)

def tagged (lexer : Lexer) (glyph : Glyph) (rest : List Glyph) : Option (Lexer × List Glyph) := do
  let lexer ← lexer.keepKey glyph
  let ((handle, tag), rest) ← Tag.tag? lexer.inFlow rest
  return ((lexer.allowKey false).emit (.tag handle tag), rest)

def quoted (lexer : Lexer) (glyph : Glyph) (rest : List Glyph) (quote : Quote) :
    Option (Lexer × List Glyph) := do
  let lexer ← lexer.keepKey glyph
  let (text, rest) ← quotedFrom quote (.text .none) rest
  return ((lexer.allowKey false).emit (.scalar .quoted (String.ofList text)), rest)

/-- A plain scalar. A key may begin behind it if it ends with its line. -/
def plain (lexer : Lexer) (glyph : Glyph) (rest : List Glyph) : Option (Lexer × List Glyph) := do
  let lexer ← lexer.keepKey glyph
  let (text, ending, rest) ← plainFrom lexer.inFlow lexer.floor .none (glyph :: rest)
  return ((lexer.allowKey ending).emit (.scalar .plain (String.ofList text)), rest)

def block (lexer : Lexer) (folded : Bool) (rest : List Glyph) :
    Option (Lexer × List Glyph) := do
  let lexer ← lexer.dropKey
  let (text, rest) ← blockFrom folded lexer.floor rest
  let style := if folded then Style.folded else .literal
  return ((lexer.allowKey true).emit (.scalar style (String.ofList text)), rest)

/-! ## Reading -/

/-- The characters with which no plain scalar starts, unless they run into a word. -/
def indicators : List Char :=
  ['-', '?', ':', ',', '[', ']', '{', '}', '#', '&', '*', '!', '|', '>', '\'', '"', '%', '@',
    '\x60']

def startsPlain (inFlow : Bool) (glyph : Glyph) (rest : List Glyph) : Bool :=
  (!glyph.isBlank && !glyph.isBreak && !indicators.contains glyph.char) ||
    (glyph.char = '-' && !nextIs [' ', '\t'] rest) ||
    (!inFlow && (glyph.char = '?' || glyph.char = ':') && !atWordEnd rest)

/-- The text from the next token on, and whether a key may begin there. Outside flow collections
a key may begin on every new line, and a tab must not stand where a key may begin. A byte order mark
in front of a line does not count, but takes up a column. -/
def skipToToken (inFlow : Bool) : Bool → Bool → List Glyph → Bool × List Glyph
  | keyAllowed, _, [] => (keyAllowed, [])
  | keyAllowed, inComment, glyph :: rest =>
    if glyph.isBreak then skipToToken inFlow (keyAllowed || !inFlow) false rest
    else if inComment || glyph.char = '#' then skipToToken inFlow keyAllowed true rest
    else if glyph.column = 0 && glyph.char = '\uFEFF' then
      skipToToken inFlow keyAllowed false rest
    else if glyph.char = ' ' || (glyph.char = '\t' && (inFlow || !keyAllowed)) then
      skipToToken inFlow keyAllowed false rest
    else (keyAllowed, glyph :: rest)

def token (lexer : Lexer) (glyph : Glyph) (rest : List Glyph) : Option (Lexer × List Glyph) :=
  let marked (lexer : Option Lexer) := lexer.map fun lexer => (lexer, rest)
  if glyph.column = 0 && glyph.char = '%' then lexer.directive rest
  else if atMarker '-' (glyph :: rest) then
    (lexer.documentEdge .documentStart).map fun lexer => (lexer, rest.drop 2)
  else if atMarker '.' (glyph :: rest) then
    (lexer.documentEdge .documentEnd).map fun lexer => (lexer, rest.drop 2)
  else
    match glyph.char with
    | '[' => marked (lexer.openFlow glyph .flowSequence)
    | '{' => marked (lexer.openFlow glyph .flowMapping)
    | ']' => marked (lexer.closeFlow .flowSequenceEnd)
    | '}' => marked (lexer.closeFlow .flowMappingEnd)
    | ',' => marked lexer.separator
    | '&' => lexer.named glyph rest .anchor
    | '*' => lexer.named glyph rest .reference
    | '!' => lexer.tagged glyph rest
    | '\'' => lexer.quoted glyph rest .single
    | '"' => lexer.quoted glyph rest .double
    | c =>
      if c = '-' && atWordEnd rest then marked (lexer.entry glyph)
      else if c = '?' && (lexer.inFlow || atWordEnd rest) then marked (lexer.key glyph)
      else if c = ':' && (lexer.inFlow || atWordEnd rest) then marked (lexer.value glyph)
      else if c = '|' && !lexer.inFlow then lexer.block false rest
      else if c = '>' && !lexer.inFlow then lexer.block true rest
      else if startsPlain lexer.inFlow glyph rest then lexer.plain glyph rest
      else none

/-- All tokens. Every token takes up at least one glyph, which bounds the fuel. -/
def run : Nat → Lexer → List Glyph → Option (Array Token)
  | 0, _, _ => none
  | fuel + 1, lexer, glyphs =>
    let (keyAllowed, glyphs) := skipToToken lexer.inFlow lexer.keyAllowed false glyphs
    match glyphs with
    | [] => ((lexer.closeBlocks fun _ => true).dropKey).map (·.tokens)
    | glyph :: rest => do
      let lexer ← (lexer.allowKey keyAllowed).expireKeys glyph
      let (lexer, rest) ← (lexer.closeBlocks (glyph.column < ·)).token glyph rest
      run fuel lexer rest

end Lexer

def tokens? (text : String) : Option (List Token) := do
  let glyphs ← glyphs? text
  let tokens ← Lexer.start.run (glyphs.length + 1) glyphs
  return tokens.toList

end MeterSync.Yaml
