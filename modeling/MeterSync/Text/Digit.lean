/-!
# Digits

Numbers written in a radix of at most 16. Letters count from ten on, small or capital.
-/

set_option autoImplicit false

namespace MeterSync

def hexValue? (c : Char) : Option Nat :=
  if '0' ≤ c ∧ c ≤ '9' then some (c.toNat - 48)
  else if 'a' ≤ c ∧ c ≤ 'f' then some (c.toNat - 87)
  else if 'A' ≤ c ∧ c ≤ 'F' then some (c.toNat - 55)
  else none

def digitValue? (radix : Nat) (c : Char) : Option Nat :=
  (hexValue? c).filter (· < radix)

/-- The number that a row of digits spells. An empty row spells none. -/
def ofDigits? (radix : Nat) (digits : List Char) : Option Nat :=
  if digits.isEmpty then none
  else digits.foldlM (fun number c => (digitValue? radix c).map (radix * number + ·)) 0

end MeterSync
