import MeterSync.Text.Digit
import MeterSync.Yaml.Glyph

/-!
# Tags

A tag says what kind of thing a node is. It is written in full between angle brackets, or behind a
handle that stands for its front part. A byte in it may be written as an escape of two digits, and
the bytes of one character have to stand together.
-/

set_option autoImplicit false

namespace MeterSync.Yaml

/-- A tag, or a part of one, as bytes. -/
abbrev Tag := List UInt8

namespace Tag

def ofAscii (chars : List Char) : Tag :=
  chars.map fun c => UInt8.ofNat c.toNat

/-- The mark that starts the tags of a document's own, and that is a tag by itself. -/
def mark : Tag := ofAscii ['!']

/-- The front part of the tags that every document knows. -/
def standard : Tag := ofAscii "tag:yaml.org,2002:".toList

def null : Tag := standard ++ ofAscii "null".toList

def integer : Tag := standard ++ ofAscii "int".toList

/-- The choice that a tag names behind the mark. A tag without the mark in front, or one that spells
no text, names none. -/
def name? : Tag → Option String
  | [] => none
  | byte :: rest => if [byte] = mark then String.fromUTF8? rest.toByteArray else none

/-! ## Characters -/

/-- The character may stand for itself in a tag. Only a tag in full may hold the marks of flow
collections. -/
def isPlainChar (full : Bool) (c : Char) : Bool :=
  isNameChar c ||
    [';', '/', '?', ':', '@', '&', '=', '+', '$', '.', '!', '~', '*', '\'', '(', ')'].contains c ||
    (full && [',', '[', ']'].contains c)

/-- The number of bytes that follow the first byte of a character. -/
def followers? (byte : Nat) : Option Nat :=
  if byte < 0x80 then some 0
  else if byte < 0xC0 then none
  else if byte < 0xE0 then some 1
  else if byte < 0xF0 then some 2
  else if byte < 0xF8 then some 3
  else none

/-- The number of bytes that a character still lacks after one more, given how many it lacked. -/
def lacking? (lacked byte : Nat) : Option Nat :=
  if lacked = 0 then followers? byte
  else if 0x80 ≤ byte ∧ byte < 0xC0 then some (lacked - 1)
  else none

def byte? (high low : Glyph) : Option Nat := do
  return 16 * (← hexValue? high.char) + (← hexValue? low.char)

/-- The bytes of a tag up to what cannot belong to it, and what follows. A character that an escape
has begun has to be completed by escapes. -/
def bytesFrom (full : Bool) : Nat → List Glyph → Option (Tag × List Glyph)
  | lacked, [] => if lacked = 0 then some ([], []) else none
  | lacked, glyph :: rest =>
    if glyph.char = '%' then
      match rest with
      | high :: low :: rest =>
        match byte? high low with
        | none => none
        | some byte =>
          match lacking? lacked byte with
          | none => none
          | some lacked =>
            (bytesFrom full lacked rest).map fun read => (UInt8.ofNat byte :: read.1, read.2)
      | _ => none
    else if lacked ≠ 0 then none
    else if isPlainChar full glyph.char then
      (bytesFrom full 0 rest).map fun read => (UInt8.ofNat glyph.char.toNat :: read.1, read.2)
    else some ([], glyph :: rest)

/-- The bytes before the first zero, which ends a tag wherever it stands. -/
def ended (tag : Tag) : Tag :=
  tag.takeWhile (· ≠ 0)

/-- A part of a tag that must not be left out. -/
def part? (full : Bool) (glyphs : List Glyph) : Option (Tag × List Glyph) :=
  match bytesFrom full 0 glyphs with
  | none => none
  | some ([], _) => none
  | some (bytes, rest) => some (ended bytes, rest)

/-! ## Handles -/

/-- The name of a handle behind its first mark, whether a second mark closes it, and what
follows. -/
def handleFrom (glyphs : List Glyph) : List Char × Bool × List Glyph :=
  let name := (glyphs.takeWhile fun glyph => isNameChar glyph.char).map (·.char)
  match glyphs.dropWhile fun glyph => isNameChar glyph.char with
  | [] => (name, false, [])
  | glyph :: rest => if glyph.char = '!' then (name, true, rest) else (name, false, glyph :: rest)

def closedHandle (name : List Char) : String :=
  String.ofList ('!' :: (name ++ ['!']))

/-- A tag behind its first mark, as a handle and the rest, and what follows it. A tag in full has
the empty handle, and so has the mark that stands alone. -/
def shorthand? (glyphs : List Glyph) : Option ((String × Tag) × List Glyph) :=
  if nextIs ['<'] glyphs then
    match part? true glyphs.tail with
    | some (tag, glyph :: rest) => if glyph.char = '>' then some (("", tag), rest) else none
    | _ => none
  else
    match handleFrom glyphs with
    | (name, true, rest) => (part? false rest).map fun read => ((closedHandle name, read.1), read.2)
    | (name, false, rest) =>
      (bytesFrom false 0 rest).map fun read =>
        let tag := ended (ofAscii name ++ read.1)
        (if tag = [] then ("", mark) else ("!", tag), read.2)

/-- A tag behind its first mark, which ends with a blank, or with a comma in a flow collection. -/
def tag? (inFlow : Bool) (glyphs : List Glyph) : Option ((String × Tag) × List Glyph) :=
  match shorthand? glyphs with
  | none => none
  | some (tag, rest) =>
    if atWordEnd rest || (inFlow && nextIs [','] rest) then some (tag, rest) else none

end Tag

end MeterSync.Yaml
