import MeterSync.Yaml.Tag

/-!
# Directives

Lines in front of a document that tell the version of YAML it is written in and what the handles of
its tags stand for. There are no other directives.
-/

set_option autoImplicit false

namespace MeterSync.Yaml

inductive Directive where
  | version (major minor : Nat)
  | handle (name : String) (tag : Tag)
deriving DecidableEq, Repr

abbrev Handles := List (String × Tag)

namespace Directive

def knownHandles : Handles :=
  [("!", Tag.mark), ("!!", Tag.standard)]

/-- A part of a version, of at most nine digits. -/
def versionPart? (glyphs : List Glyph) : Option (Nat × List Glyph) :=
  let digits := (glyphs.takeWhile fun glyph => glyph.char.isDigit).map (·.char)
  if 9 < digits.length then none
  else
    (ofDigits? 10 digits).map fun number =>
      (number, glyphs.dropWhile fun glyph => glyph.char.isDigit)

/-- A version: two numbers with a point between them. -/
def version? (glyphs : List Glyph) : Option (Directive × List Glyph) := do
  let (major, rest) ← versionPart? glyphs
  if nextIs ['.'] rest then
    let (minor, rest) ← versionPart? rest.tail
    return (.version major minor, rest)
  else none

/-- A handle, and behind a blank what it stands for. -/
def handle? (glyphs : List Glyph) : Option (Directive × List Glyph) :=
  if nextIs ['!'] glyphs then
    match Tag.handleFrom glyphs.tail with
    | (name, closed, rest) =>
      if (closed || name = []) && nextIs [' ', '\t'] rest then do
        let (tag, rest) ← Tag.part? true (rest.dropWhile (·.isBlank))
        if atWordEnd rest then
          return (.handle (if closed then Tag.closedHandle name else "!") tag, rest)
        else none
      else none
  else none

/-- A directive behind its first mark, and the lines below it. -/
def directive? (glyphs : List Glyph) : Option (Directive × List Glyph) := do
  let name := (glyphs.takeWhile fun glyph => isNameChar glyph.char).map (·.char)
  let rest := glyphs.dropWhile fun glyph => isNameChar glyph.char
  if atWordEnd rest then
    let value := rest.dropWhile (·.isBlank)
    let (directive, rest) ←
      if name = ['Y', 'A', 'M', 'L'] then version? value
      else if name = ['T', 'A', 'G'] then handle? value
      else none
    return (directive, ← linesBelow? rest)
  else none

end Directive

end MeterSync.Yaml
