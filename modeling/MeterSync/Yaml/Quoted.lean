import MeterSync.Text.Digit
import MeterSync.Yaml.Gap
import MeterSync.Yaml.Glyph

/-!
# Quoted scalars

In single quotes a quote is written twice and nothing else is special. In double quotes a
backslash starts an escape, and one at the end of a line joins it to the next. Both may run over
several lines, but not over the edge of a document.
-/

set_option autoImplicit false

namespace MeterSync.Yaml

inductive Quote where
  | single
  | double
deriving DecidableEq, Repr

def Quote.char : Quote → Char
  | .single => '\''
  | .double => '"'

/-- The character that an escape of one letter stands for. -/
def escaped? : Char → Option Char
  | '0' => some '\x00'
  | 'a' => some '\x07'
  | 'b' => some '\x08'
  | 't' => some '\t'
  | '\t' => some '\t'
  | 'n' => some '\n'
  | 'v' => some '\x0b'
  | 'f' => some '\x0c'
  | 'r' => some '\r'
  | 'e' => some '\x1b'
  | ' ' => some ' '
  | '"' => some '"'
  | '/' => some '/'
  | '\\' => some '\\'
  | 'N' => some '\u0085'
  | '_' => some '\u00a0'
  | 'L' => some '\u2028'
  | 'P' => some '\u2029'
  | _ => none

/-- The number of digits that follow the letter of an escape by code point. -/
def escapeWidth? : Char → Option Nat
  | 'x' => some 2
  | 'u' => some 4
  | 'U' => some 8
  | _ => none

/-- Where the reading of a quoted scalar stands: in its text behind a gap, behind a backslash, in
the digits of a code point, or behind a single quote that may be the first of two. -/
inductive QuoteState where
  | text (gap : Gap)
  | escape
  | code (left : Nat) (value : Nat)
  | quote
deriving Repr

/-- The rest of a quoted scalar, and what follows its closing quote. -/
def quotedFrom (quote : Quote) : QuoteState → List Glyph → Option (List Char × List Glyph)
  | .quote, [] => some ([], [])
  | _, [] => none
  | .quote, glyph :: rest =>
    if glyph.char = '\'' then
      (quotedFrom quote (.text .none) rest).map fun read => ('\'' :: read.1, read.2)
    else some ([], glyph :: rest)
  | .escape, glyph :: rest =>
    if glyph.isBreak then quotedFrom quote (.text (.joined [])) rest
    else
      match escapeWidth? glyph.char, escaped? glyph.char with
      | some width, _ => quotedFrom quote (.code width 0) rest
      | none, some c =>
        (quotedFrom quote (.text .none) rest).map fun read => (c :: read.1, read.2)
      | none, none => none
  | .code left value, glyph :: rest =>
    match hexValue? glyph.char with
    | none => none
    | some digit =>
      let value := 16 * value + digit
      if 1 < left then quotedFrom quote (.code (left - 1) value) rest
      else if value.isValidChar then
        (quotedFrom quote (.text .none) rest).map fun read => (Char.ofNat value :: read.1, read.2)
      else none
  | .text gap, glyph :: rest =>
    if glyph.isBreak then quotedFrom quote (.text (gap.addBreak glyph.char)) rest
    else if glyph.isBlank then quotedFrom quote (.text (gap.addBlank glyph.char)) rest
    else if atDocumentEdge (glyph :: rest) then none
    else
      match quote, glyph.char with
      | .double, '"' => some (gap.fold, rest)
      | .double, '\\' =>
        (quotedFrom quote .escape rest).map fun read => (gap.fold ++ read.1, read.2)
      | .single, '\'' =>
        (quotedFrom quote .quote rest).map fun read => (gap.fold ++ read.1, read.2)
      | _, c =>
        (quotedFrom quote (.text .none) rest).map fun read => (gap.fold ++ c :: read.1, read.2)

end MeterSync.Yaml
