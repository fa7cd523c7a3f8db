/-!
# Varints

Numbers of up to 64 bits as bytes: seven bits a byte, the least significant first, and the top bit
set on every byte but the last. Ten bytes are enough, and of a tenth only the lowest bit is free.
-/

set_option autoImplicit false

namespace MeterSync.Wire.Varint

/-- The bytes of a number, of which at most `more` are followed by another. -/
def digits : (more : Nat) → (value : Nat) → List UInt8
  | 0, value => [UInt8.ofNat value]
  | more + 1, value =>
    if value < 128 then [UInt8.ofNat value]
    else UInt8.ofNat (value % 128 + 128) :: digits more (value / 128)

def encode (value : UInt64) : List UInt8 :=
  digits 9 value.toNat

/-- The least number that is too large for bytes of which at most `more` are followed by another. -/
def capacity : (more : Nat) → Nat
  | 0 => 2
  | more + 1 => 128 * capacity more

/-- Reads bytes up to the first without its top bit, of which at most `more` come before that one.
Zeros above the number are accepted. -/
def readDigits : (more : Nat) → List UInt8 → Option (Nat × List UInt8)
  | _, [] => none
  | 0, byte :: rest => if byte.toNat ≤ 1 then some (byte.toNat, rest) else none
  | more + 1, byte :: rest =>
    if byte.toNat < 128 then some (byte.toNat, rest)
    else
      match readDigits more rest with
      | none => none
      | some (high, rest) => some (byte.toNat - 128 + 128 * high, rest)

/-- The number at the head of the bytes, and the bytes after it. -/
def decode (bytes : List UInt8) : Option (UInt64 × List UInt8) :=
  (readDigits 9 bytes).map fun read => (UInt64.ofNat read.1, read.2)

theorem readDigits_digits (more value : Nat) (rest : List UInt8)
    (small : value < capacity more) :
    readDigits more (digits more value ++ rest) = some (value, rest) := by
  induction more generalizing value with
  | zero =>
      rw [capacity] at small
      have exact : value % 256 = value := Nat.mod_eq_of_lt (by omega)
      have atMostOne : value ≤ 1 := by omega
      simp [digits, readDigits, UInt8.toNat_ofNat', exact, atMostOne]
  | succ more ih =>
      rw [digits]
      split
      · rename_i short
        have exact : value % 256 = value := Nat.mod_eq_of_lt (by omega)
        simp [readDigits, UInt8.toNat_ofNat', exact, short]
      · rename_i long
        have higher : value / 128 < capacity more := Nat.div_lt_of_lt_mul small
        have low : (value % 128 + 128) % 256 = value % 128 + 128 := Nat.mod_eq_of_lt (by omega)
        simp only [List.cons_append, readDigits, UInt8.toNat_ofNat', Nat.reducePow, low,
          ih _ higher]
        rw [if_neg (by omega)]
        simp only [Option.some.injEq, Prod.mk.injEq, and_true]
        omega

theorem decode_encode (value : UInt64) (rest : List UInt8) :
    decode (encode value ++ rest) = some (value, rest) := by
  rw [decode, encode, readDigits_digits 9 _ rest value.toNat_lt]
  simp

theorem readDigits_length {more : Nat} {bytes rest : List UInt8} {value : Nat}
    (read : readDigits more bytes = some (value, rest)) : rest.length < bytes.length := by
  induction more generalizing bytes rest value with
  | zero =>
      cases bytes with
      | nil => simp [readDigits] at read
      | cons byte bytes =>
          simp only [readDigits] at read
          split at read <;> simp_all
  | succ more ih =>
      cases bytes with
      | nil => simp [readDigits] at read
      | cons byte bytes =>
          simp only [readDigits] at read
          split at read
          · simp_all
          · split at read
            · simp at read
            · rename_i found
              have shorter := ih found
              simp only [Option.some.injEq, Prod.mk.injEq] at read
              simp only [List.length_cons]
              rw [← read.2]
              omega

theorem decode_length {bytes rest : List UInt8} {value : UInt64}
    (read : decode bytes = some (value, rest)) : rest.length < bytes.length := by
  obtain ⟨⟨number, tail⟩, found, same⟩ := Option.map_eq_some_iff.mp read
  simp only [Prod.mk.injEq] at same
  exact same.2 ▸ readDigits_length found

end MeterSync.Wire.Varint
