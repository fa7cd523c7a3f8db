import MeterSync.Text.Digit
import MeterSync.Yaml.Glyph

/-!
# Block scalars

A scalar that takes up whole lines below its header. The header says whether lines are folded, how
far they are indented, and what becomes of the line ends behind the last one.
-/

set_option autoImplicit false

namespace MeterSync.Yaml

/-- What becomes of the line ends behind the last line: all are dropped, one is kept, or all are
kept. -/
inductive Chomp where
  | strip
  | clip
  | keep
deriving DecidableEq, Repr

/-- The header of a block scalar. Without a number the first line decides the indentation. -/
structure BlockHeader where
  folded : Bool
  chomp : Chomp
  indentation : Option Nat
deriving Repr

/-! ## The header -/

/-- The sign of a header, if one stands here. -/
def chompSign? : List Glyph → Option (Chomp × List Glyph)
  | glyph :: rest =>
    if glyph.char = '+' then some (.keep, rest)
    else if glyph.char = '-' then some (.strip, rest)
    else none
  | [] => none

/-- The digit of a header, if one stands here. -/
def indentDigit? : List Glyph → Option (Nat × List Glyph)
  | glyph :: rest => (digitValue? 10 glyph.char).map fun digit => (digit, rest)
  | [] => none

/-- The sign and the digit of a header, in either order. -/
def headerMarks (glyphs : List Glyph) : Chomp × Option Nat × List Glyph :=
  match chompSign? glyphs with
  | some (chomp, rest) =>
    match indentDigit? rest with
    | some (digit, rest) => (chomp, some digit, rest)
    | none => (chomp, none, rest)
  | none =>
    match indentDigit? glyphs with
    | some (digit, rest) =>
      match chompSign? rest with
      | some (chomp, rest) => (chomp, some digit, rest)
      | none => (.clip, some digit, rest)
    | none => (.clip, none, glyphs)

/-- The header behind its first character, and the lines below it. No block is indented by 0. -/
def header? (folded : Bool) (glyphs : List Glyph) : Option (BlockHeader × List Glyph) :=
  let (chomp, digit, rest) := headerMarks glyphs
  if digit = some 0 then none
  else (linesBelow? rest).map fun rest => (⟨folded, chomp, digit⟩, rest)

/-! ## The lines -/

/-- The lines from here on, each with the glyph that ends it. -/
def lines : List Glyph → List (List Glyph)
  | [] => []
  | glyph :: rest =>
    if glyph.isBreak then [glyph] :: lines rest
    else
      match lines rest with
      | [] => [[glyph]]
      | line :: later => (glyph :: line) :: later

/-- A line as a block sees it, given how far its indentation may go: the end of a line that is
empty, a line that has something behind its indentation, or the end of the text. -/
inductive BlockLine where
  | empty (lineBreak : Char)
  | filled (column : Nat)
  | missing

/-- How a line appears under a bound on its indentation. A tab must not indent. -/
def blockLine? (bound : Option Nat) (line : List Glyph) : Option BlockLine :=
  let indented (glyph : Glyph) : Bool := bound.all (glyph.column < ·)
  match line.dropWhile (fun glyph => indented glyph && glyph.char = ' ') with
  | [] => some .missing
  | glyph :: _ =>
    if indented glyph && glyph.char = '\t' then none
    else if glyph.isBreak then some (.empty glyph.char)
    else some (.filled glyph.column)

/-- The number of spaces in front of a line. -/
def spaces (line : List Glyph) : Nat :=
  (line.takeWhile (·.char = ' ')).length

/-- The indentation that the empty lines and the first line below a header ask for. -/
def detect? (deepest : Nat) : List (List Glyph) → Option Nat
  | [] => some deepest
  | line :: later => do
    match ← blockLine? none line with
    | .empty _ => detect? (max deepest (spaces line)) later
    | .filled column => some (max deepest column)
    | .missing => some deepest

/-- A line of a block: the ends of the empty lines above it, its text, and its own end. -/
structure BlockPart where
  above : List Char
  text : List Char
  lineBreak : List Char

/-- The lines of a block, the ends of the empty lines below them, and the lines that follow. -/
def parts? (indentation : Nat) (above : List Char) :
    List (List Glyph) → Option (List BlockPart × List Char × List (List Glyph))
  | [] => some ([], above, [])
  | line :: later => do
    match ← blockLine? (some indentation) line with
    | .empty lineBreak => parts? indentation (above ++ [lineBreak]) later
    | .missing => some ([], above, [])
    | .filled column =>
      if column = indentation then
        let (parts, below, rest) ← parts? indentation [] later
        let content := line.drop indentation
        let text := content.takeWhile fun glyph => !glyph.isBreak
        let lineBreak := content.dropWhile fun glyph => !glyph.isBreak
        some (⟨above, text.map (·.char), lineBreak.map (·.char)⟩ :: parts, below, rest)
      else some ([], above, line :: later)

/-! ## The text -/

/-- A text that starts with a blank is not folded into its neighbours. -/
def startsBlank : List Char → Bool
  | c :: _ => c = ' ' || c = '\t'
  | [] => false

/-- What stands between a line and the one before it. Under folding a plain line end between two
lines that start with no blank becomes a space, or gives way to empty lines. -/
def blockGap (folded : Bool) (before : BlockPart) (part : BlockPart) : List Char :=
  if folded && before.lineBreak = ['\n'] && !startsBlank before.text && !startsBlank part.text then
    if part.above = [] then [' '] else part.above
  else before.lineBreak ++ part.above

/-- The text of the lines behind one, and the end of the last line. -/
def joinParts (folded : Bool) (before : BlockPart) : List BlockPart → List Char × List Char
  | [] => ([], before.lineBreak)
  | part :: parts =>
    let joined := joinParts folded part parts
    (blockGap folded before part ++ part.text ++ joined.1, joined.2)

/-- The text of a block with its line ends chomped. -/
def blockText (header : BlockHeader) (parts : List BlockPart) (below : List Char) : List Char :=
  let joined := joinParts header.folded ⟨[], [], []⟩ parts
  match header.chomp with
  | .strip => joined.1
  | .clip => joined.1 ++ joined.2
  | .keep => joined.1 ++ joined.2 ++ below

/-- A block scalar behind the character that opens it, and what follows it. Its lines are indented
at least to a floor. -/
def blockFrom (folded : Bool) (floor : Nat) (glyphs : List Glyph) :
    Option (List Char × List Glyph) := do
  let (header, rest) ← header? folded glyphs
  let below := lines rest
  let indentation ←
    match header.indentation with
    | some digit => some (floor - 1 + digit)
    | none => (detect? 0 below).map fun found => max (max found floor) 1
  let (parts, trailing, rest) ← parts? indentation [] below
  some (blockText header parts trailing, rest.flatten)

end MeterSync.Yaml
