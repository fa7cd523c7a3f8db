/-!
# Glyphs

The characters of a YAML text with their places. Indentation is meaning in YAML, so a character is
read together with its line and its column.
-/

set_option autoImplicit false

namespace MeterSync.Yaml

/-- A character and where it stands, all counted from 0: the bytes before it, its line, and the
characters before it in that line. -/
structure Glyph where
  char : Char
  index : Nat
  line : Nat
  column : Nat
deriving Repr

/-- The characters that may stand in a YAML text. -/
def isPrintable (c : Char) : Bool :=
  let code := c.toNat
  c = '\t' || c = '\n' || c = '\r' || (0x20 ≤ code && code ≤ 0x7E) || code = 0x85 ||
    (0xA0 ≤ code && code ≤ 0xFFFD) || 0x10000 ≤ code

def isBreakChar (c : Char) : Bool :=
  c = '\n' || c = '\u2028' || c = '\u2029'

/-- The text with one character for every way to write a plain line end. -/
def unifyBreaks : List Char → List Char
  | [] => []
  | '\r' :: '\n' :: rest => '\n' :: unifyBreaks rest
  | '\r' :: rest => '\n' :: unifyBreaks rest
  | '\u0085' :: rest => '\n' :: unifyBreaks rest
  | c :: rest => c :: unifyBreaks rest

def placed (index line column : Nat) : List Char → List Glyph
  | [] => []
  | c :: rest =>
    ⟨c, index, line, column⟩ ::
      if isBreakChar c then placed (index + c.utf8Size) (line + 1) 0 rest
      else placed (index + c.utf8Size) line (column + 1) rest

/-- The glyphs of a text; none if a character in it may not stand there. -/
def glyphs? (text : String) : Option (List Glyph) :=
  let cs := text.toList
  if cs.all isPrintable then some (placed 0 0 0 (unifyBreaks cs)) else none

namespace Glyph

def isBreak (glyph : Glyph) : Bool :=
  isBreakChar glyph.char

def isBlank (glyph : Glyph) : Bool :=
  glyph.char = ' ' || glyph.char = '\t'

end Glyph

def nextIs (chars : List Char) : List Glyph → Bool
  | [] => false
  | glyph :: _ => chars.contains glyph.char

/-- A word ends here: at a blank, at the end of the line or at the end of the text. -/
def atWordEnd : List Glyph → Bool
  | [] => true
  | glyph :: _ => glyph.isBlank || glyph.isBreak

/-- The characters of which the names of anchors, handles and directives consist. -/
def isNameChar (c : Char) : Bool :=
  c.isAlphanum || c = '_' || c = '-'

/-- The text from a comment on, without that comment. -/
def skipComment : List Glyph → List Glyph
  | [] => []
  | glyph :: rest =>
    if glyph.char = '#' then rest.dropWhile (fun each => !each.isBreak) else glyph :: rest

/-- The lines below one whose rest holds nothing but blanks and a comment. -/
def linesBelow? (glyphs : List Glyph) : Option (List Glyph) :=
  match skipComment (glyphs.dropWhile (·.isBlank)) with
  | [] => some []
  | glyph :: rest => if glyph.isBreak then some rest else none

/-- A line starts here with three of a character and nothing else in that word. -/
def atMarker (c : Char) : List Glyph → Bool
  | first :: second :: third :: rest =>
    first.column = 0 && first.char = c && second.char = c && third.char = c && atWordEnd rest
  | _ => false

def atDocumentEdge (glyphs : List Glyph) : Bool :=
  atMarker '-' glyphs || atMarker '.' glyphs

end MeterSync.Yaml
