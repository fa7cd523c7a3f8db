/-!
# Blank text

The characters that leave no mark on a page, and the texts that hold nothing else. A name is
refused when it is blank.
-/

set_option autoImplicit false

namespace MeterSync

/-- The code points with the Unicode property White_Space, as closed ranges in ascending order. -/
def blankRanges : List (Nat × Nat) :=
  [(0x09, 0x0D), (0x20, 0x20), (0x85, 0x85), (0xA0, 0xA0), (0x1680, 0x1680), (0x2000, 0x200A),
    (0x2028, 0x2029), (0x202F, 0x202F), (0x205F, 0x205F), (0x3000, 0x3000)]

/-- A character is blank when its code point lies in one of the blank ranges. -/
def isBlankChar (c : Char) : Bool :=
  blankRanges.any fun range => range.1 ≤ c.toNat && c.toNat ≤ range.2

/-- A text is blank when every character in it is; so is the empty text. -/
def isBlank (text : String) : Bool :=
  text.toList.all isBlankChar

end MeterSync
