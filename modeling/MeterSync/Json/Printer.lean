import MeterSync.Json

/-!
# Printing JSON

The text of a value under a layout. A layout decides what stands where a line may end and after a
colon, and nothing else, so every layout of a value reads back as that value.
-/

set_option autoImplicit false

namespace MeterSync.Json

/-! ## Strings -/

/-- The characters with a short escape, each with the letter of that escape. -/
def shortEscapes : List (Char × Char) :=
  [('"', '"'), ('\\', '\\'), ('\x08', 'b'), ('\t', 't'), ('\n', 'n'), ('\x0c', 'f'), ('\r', 'r')]

/-- A character inside a string. Control characters are escaped, by the short form where there is
one; every other character stands for itself. -/
def escape (c : Char) : List Char :=
  match shortEscapes.lookup c with
  | some letter => ['\\', letter]
  | none =>
    if c.toNat < 0x20 then
      ['\\', 'u', '0', '0', Nat.digitChar (c.toNat / 16), Nat.digitChar (c.toNat % 16)]
    else [c]

def quote (text : String) : List Char :=
  '"' :: (text.toList.flatMap escape ++ ['"'])

def unpairedQuote : List Char :=
  ['"', '\\', 'u', 'd', '8', '0', '0', '"']

/-- A string, whether or not it stands for a text. -/
def quote? : Option String → List Char
  | some text => quote text
  | none => unpairedQuote

/-! ## Numbers -/

def digits (number : Nat) : List Char :=
  Nat.toDigits 10 number

/-- An integer with its sign, if it is negative. -/
def signedDigits : Int → List Char
  | .ofNat number => digits number
  | .negSucc number => '-' :: digits (number + 1)

def decimalDigits (negative : Bool) (number : Nat) (exponent : Int) : List Char :=
  (if negative then ['-'] else []) ++ digits number ++ 'e' :: signedDigits exponent

/-! ## Values -/

/-- What stands between the parts of a value: at a place where a line may end, by the depth of
what follows, and after a colon. -/
structure Layout where
  newline : Nat → List Char
  gap : List Char

def Layout.compact : Layout :=
  ⟨fun _ => [], []⟩

/-- One item or member a line, indented by two blanks for each level. -/
def Layout.indented : Layout :=
  ⟨fun depth => '\n' :: List.replicate (2 * depth) ' ', [' ']⟩

mutual
def write (layout : Layout) (depth : Nat) : Json → List Char
  | .null => ['n', 'u', 'l', 'l']
  | .bool true => ['t', 'r', 'u', 'e']
  | .bool false => ['f', 'a', 'l', 's', 'e']
  | .integer number => signedDigits number
  | .decimal negative number exponent => decimalDigits negative number exponent
  | .string text => quote? text
  | .array [] => ['[', ']']
  | .array (item :: items) =>
    '[' :: (layout.newline (depth + 1) ++ item.write layout (depth + 1) ++
      writeItems layout depth items)
  | .object [] => ['{', '}']
  | .object ((name, value) :: members) =>
    '{' :: (layout.newline (depth + 1) ++ quote? name ++ ':' :: layout.gap ++
      value.write layout (depth + 1) ++ writeMembers layout depth members)

/-- The text of an array from behind one of its items. -/
def writeItems (layout : Layout) (depth : Nat) : List Json → List Char
  | [] => layout.newline depth ++ [']']
  | item :: items =>
    ',' :: (layout.newline (depth + 1) ++ item.write layout (depth + 1) ++
      writeItems layout depth items)

/-- The text of an object from behind one of its members. -/
def writeMembers (layout : Layout) (depth : Nat) : List (Option String × Json) → List Char
  | [] => layout.newline depth ++ ['}']
  | (name, value) :: members =>
    ',' :: (layout.newline (depth + 1) ++ quote? name ++ ':' :: layout.gap ++
      value.write layout (depth + 1) ++ writeMembers layout depth members)
end

def print (layout : Layout) (value : Json) : String :=
  String.ofList (value.write layout 0)

end MeterSync.Json
