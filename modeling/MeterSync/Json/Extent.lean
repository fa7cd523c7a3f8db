import MeterSync.Json.Printer

/-!
# The extent of JSON values

A value that has to be kept before its meaning is known is kept only if it does not nest too deep,
its strings stand for texts and its numbers lie in the range of double precision.
-/

set_option autoImplicit false

namespace MeterSync.Json

/-- The number of levels to which a text may nest. -/
def maxHeight : Nat := 127

/-- The least number that rounds to infinity in double precision. -/
def doubleBound : Nat := Nat.pow 2 1024 - Nat.pow 2 970

/-- The greatest power of ten, by its exponent, that double precision can hold. -/
def maxExponent : Int := 308

/-- The nearest number that 53 bits and zeros behind them spell, the even one of two. -/
def toDouble (number : Nat) : Nat :=
  let unit := Nat.pow 2 (number.log2 + 1 - 53)
  let quotient := number / unit
  let twice := 2 * (number % unit)
  if unit < twice ∨ (unit = twice ∧ quotient % 2 = 1) then (quotient + 1) * unit
  else quotient * unit

/-- A decimal without the last digits of those that do not fit into a word. -/
def leading (number : Nat) (exponent : Int) : Nat × Int :=
  if number < UInt64.size then (number, exponent) else leading (number / 10) (exponent + 1)
termination_by number
decreasing_by
  rename_i large
  exact Nat.div_lt_self (Nat.lt_of_lt_of_le (by decide) (Nat.le_of_not_lt large)) (by decide)

/-- A decimal lies in the range of double precision. Its digits and its power of ten are rounded
before they are multiplied, and so is the product. -/
def isFiniteDecimal (number : Nat) (exponent : Int) : Bool :=
  let (number, exponent) := leading number exponent
  if number = 0 ∨ exponent ≤ 0 then true
  else if maxExponent < exponent then false
  else toDouble number * toDouble (Nat.pow 10 exponent.toNat) < doubleBound

mutual
/-- The value can be kept with this many levels to spare. -/
def isKept (room : Nat) : Json → Bool
  | .null => true
  | .bool _ => true
  | .integer number => isFiniteDecimal number.natAbs 0
  | .decimal _ number exponent => isFiniteDecimal number exponent
  | .string text => text.isSome
  | .array items => room ≠ 0 && areItemsKept (room - 1) items
  | .object members => room ≠ 0 && areMembersKept (room - 1) members

def areItemsKept (room : Nat) : List Json → Bool
  | [] => true
  | item :: items => item.isKept room && areItemsKept room items

def areMembersKept (room : Nat) : List (Option String × Json) → Bool
  | [] => true
  | (name, value) :: members => name.isSome && value.isKept room && areMembersKept room members
end

end MeterSync.Json
