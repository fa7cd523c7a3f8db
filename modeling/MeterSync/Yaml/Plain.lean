import MeterSync.Yaml.Gap
import MeterSync.Yaml.Glyph

/-!
# Plain scalars

A scalar without quotes goes on until something that cannot belong to it: a comment, a colon that
ends a word, an indicator of a flow collection, or a line that is not indented enough.
-/

set_option autoImplicit false

namespace MeterSync.Yaml

def flowIndicators : List Char := [',', '[', ']', '{', '}']

/-- A plain scalar ends before a glyph that is no blank, given the gap in front of the glyph. -/
def endsPlain (inFlow : Bool) (floor : Nat) (gap : Gap) (glyph : Glyph) (rest : List Glyph) :
    Bool :=
  (gap.isBroken && !inFlow && glyph.column < floor) ||
    (gap ≠ .none && (glyph.char = '#' || atDocumentEdge (glyph :: rest))) ||
    (glyph.char = ':' && atWordEnd rest) ||
    (inFlow && flowIndicators.contains glyph.char)

/-- The rest of a plain scalar, whether it ends with a line, and what follows it. In a flow
collection a colon must not run into an indicator, and a tab must not indent a line. -/
def plainFrom (inFlow : Bool) (floor : Nat) :
    Gap → List Glyph → Option (List Char × Bool × List Glyph)
  | gap, [] => some ([], gap.isBroken, [])
  | gap, glyph :: rest =>
    if glyph.isBreak then plainFrom inFlow floor (gap.addBreak glyph.char) rest
    else if glyph.isBlank then
      if gap.isBroken && glyph.char = '\t' && glyph.column < floor then none
      else plainFrom inFlow floor (gap.addBlank glyph.char) rest
    else if endsPlain inFlow floor gap glyph rest then some ([], gap.isBroken, glyph :: rest)
    else if inFlow && glyph.char = ':' && nextIs ('?' :: flowIndicators) rest then none
    else
      match plainFrom inFlow floor .none rest with
      | some (chars, ending) => some (gap.fold ++ glyph.char :: chars, ending)
      | none => none

end MeterSync.Yaml
