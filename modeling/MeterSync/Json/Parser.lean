import MeterSync.Json
import MeterSync.Text.Digit

/-!
# Parsing JSON

The grammar to the letter: no trailing commas, no comments, no control characters in strings, and
nothing behind the value but blanks. A string may hold escapes that name half a surrogate pair; it
then stands for no text, and who asks for its text is refused.
-/

set_option autoImplicit false

namespace MeterSync.Json

def isGap (c : Char) : Bool :=
  c = ' ' || c = '\t' || c = '\n' || c = '\r'

/-- The text from its first character that is not blank. -/
def skipGaps (cs : List Char) : List Char :=
  cs.dropWhile isGap

/-! ## Strings -/

/-- The character behind the letter of a short escape. -/
def unescape? : Char → Option Char
  | '"' => some '"'
  | '\\' => some '\\'
  | '/' => some '/'
  | 'b' => some '\x08'
  | 'f' => some '\x0c'
  | 'n' => some '\n'
  | 'r' => some '\r'
  | 't' => some '\t'
  | _ => none

/-- The code units of a string from behind its opening quote, and what follows its closing quote. A
unit is a code point, or half a surrogate pair if an escape names one. -/
def units : List Char → Option (List Nat × List Char)
  | [] => none
  | '"' :: rest => some ([], rest)
  | '\\' :: 'u' :: a :: b :: c :: d :: rest =>
    match ofDigits? 16 [a, b, c, d], units rest with
    | some unit, some (later, rest) => some (unit :: later, rest)
    | _, _ => none
  | '\\' :: c :: rest =>
    match unescape? c, units rest with
    | some plain, some (later, rest) => some (plain.toNat :: later, rest)
    | _, _ => none
  | c :: rest =>
    if c.toNat < 0x20 then none
    else
      match units rest with
      | some (later, rest) => some (c.toNat :: later, rest)
      | none => none

def isLeading (unit : Nat) : Bool :=
  0xD800 ≤ unit && unit < 0xDC00

def isTrailing (unit : Nat) : Bool :=
  0xDC00 ≤ unit && unit < 0xE000

/-- The characters that code units stand for; none if half a pair stands alone. -/
def characters? : List Nat → Option (List Char)
  | [] => some []
  | [unit] =>
    if isLeading unit || isTrailing unit then none else some [Char.ofNat unit]
  | unit :: next :: rest =>
    if isLeading unit then
      if isTrailing next then
        (characters? rest).map
          (Char.ofNat (0x10000 + (unit - 0xD800) * 0x400 + (next - 0xDC00)) :: ·)
      else none
    else if isTrailing unit then none
    else (characters? (next :: rest)).map (Char.ofNat unit :: ·)

def stringBody (cs : List Char) : Option (Option String × List Char) :=
  match units cs with
  | some (units, rest) => some ((characters? units).map String.ofList, rest)
  | none => none

/-! ## Numbers -/

def number (digits : List Char) : Nat :=
  Nat.ofDigitChars 10 digits 0

/-- A row of decimal digits that is not empty. -/
def digitRow (cs : List Char) : Option (List Char × List Char) :=
  match cs.takeWhile Char.isDigit with
  | [] => none
  | digits => some (digits, cs.dropWhile Char.isDigit)

/-- The digits before the point. Only zero itself starts with a zero. -/
def wholePart (cs : List Char) : Option (List Char × List Char) :=
  match digitRow cs with
  | some ('0' :: _ :: _, _) => none
  | row => row

/-- The digits behind the point, if there is a point. -/
def fractionPart : List Char → Option (Option (List Char) × List Char)
  | '.' :: rest => (digitRow rest).map fun row => (some row.1, row.2)
  | cs => some (none, cs)

def exponentSign : List Char → Bool × List Char
  | '-' :: rest => (true, rest)
  | '+' :: rest => (false, rest)
  | cs => (false, cs)

def exponentBody (cs : List Char) : Option (Int × List Char) :=
  let sign := exponentSign cs
  (digitRow sign.2).map fun row =>
    (if sign.1 then -(number row.1 : Int) else (number row.1 : Int), row.2)

def exponentPart : List Char → Option (Option Int × List Char)
  | 'e' :: rest => (exponentBody rest).map fun body => (some body.1, body.2)
  | 'E' :: rest => (exponentBody rest).map fun body => (some body.1, body.2)
  | cs => some (none, cs)

/-- The number with these parts. It is an integer if it is written as one, minus zero apart. -/
def ofParts (negative : Bool) (whole : List Char) (fraction : Option (List Char))
    (exponent : Option Int) : Json :=
  match fraction, exponent with
  | none, none =>
    if negative then
      if number whole = 0 then .decimal true 0 0 else .integer (-(number whole : Int))
    else .integer (number whole)
  | _, _ =>
    .decimal negative (number (whole ++ fraction.getD []))
      (exponent.getD 0 - (fraction.getD []).length)

def unsigned (negative : Bool) (cs : List Char) : Option (Json × List Char) :=
  match wholePart cs with
  | none => none
  | some (whole, cs) =>
    match fractionPart cs with
    | none => none
    | some (fraction, cs) =>
      match exponentPart cs with
      | none => none
      | some (exponent, cs) => some (ofParts negative whole fraction exponent, cs)

/-! ## Values -/

/-- The name of a member and the colon behind it. -/
def memberName : List Char → Option (Option String × List Char)
  | '"' :: rest =>
    match stringBody rest with
    | none => none
    | some (name, rest) =>
      match skipGaps rest with
      | ':' :: rest => some (name, rest)
      | _ => none
  | _ => none

mutual
/-- The value at the start of a text, and what follows it. Fuel counts the steps into items. -/
def value : Nat → List Char → Option (Json × List Char)
  | 0, _ => none
  | fuel + 1, cs =>
    match skipGaps cs with
    | 'n' :: 'u' :: 'l' :: 'l' :: rest => some (.null, rest)
    | 't' :: 'r' :: 'u' :: 'e' :: rest => some (.bool true, rest)
    | 'f' :: 'a' :: 'l' :: 's' :: 'e' :: rest => some (.bool false, rest)
    | '"' :: rest => (stringBody rest).map fun body => (.string body.1, body.2)
    | '[' :: rest =>
      match skipGaps rest with
      | ']' :: rest => some (.array [], rest)
      | _ =>
        match value fuel rest with
        | none => none
        | some (item, rest) =>
          match itemsAfter fuel rest with
          | none => none
          | some (items, rest) => some (.array (item :: items), rest)
    | '{' :: rest =>
      match skipGaps rest with
      | '}' :: rest => some (.object [], rest)
      | rest =>
        match memberName rest with
        | none => none
        | some (name, rest) =>
          match value fuel rest with
          | none => none
          | some (content, rest) =>
            match membersAfter fuel rest with
            | none => none
            | some (members, rest) => some (.object ((name, content) :: members), rest)
    | '-' :: rest => unsigned true rest
    | rest => unsigned false rest

/-- The items of an array from behind one of them. -/
def itemsAfter : Nat → List Char → Option (List Json × List Char)
  | 0, _ => none
  | fuel + 1, cs =>
    match skipGaps cs with
    | ']' :: rest => some ([], rest)
    | ',' :: rest =>
      match value fuel rest with
      | none => none
      | some (item, rest) =>
        match itemsAfter fuel rest with
        | none => none
        | some (items, rest) => some (item :: items, rest)
    | _ => none

/-- The members of an object from behind one of them. -/
def membersAfter : Nat → List Char → Option (List (Option String × Json) × List Char)
  | 0, _ => none
  | fuel + 1, cs =>
    match skipGaps cs with
    | '}' :: rest => some ([], rest)
    | ',' :: rest =>
      match memberName (skipGaps rest) with
      | none => none
      | some (name, rest) =>
        match value fuel rest with
        | none => none
        | some (content, rest) =>
          match membersAfter fuel rest with
          | none => none
          | some (members, rest) => some ((name, content) :: members, rest)
    | _ => none
end

def parse (text : String) : Option Json :=
  let cs := text.toList
  match value (cs.length + 1) cs with
  | some (value, rest) => if skipGaps rest = [] then some value else none
  | none => none

end MeterSync.Json
