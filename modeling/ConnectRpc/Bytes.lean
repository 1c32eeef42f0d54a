/-!
# Bytes

Octet strings are lists, so that framing, decoding and accounting are statements about `++`,
`length` and `take`. This module has the hexadecimal text of one and the big-endian word that a
frame header carries.

* `bigEndian`, `ofBigEndian`: a 32-bit word as four octets, and back.
* `ofBigEndian_bigEndian`: reading a written word gives the word modulo 2^32.
* `bigEndian_ofBigEndian`: four octets are the written form of the word that they hold.
-/

namespace ConnectRpc

/-- An octet string. -/
abbrev Bytes := List UInt8

namespace Bytes

/-- The lower-case hexadecimal digit of a number below sixteen. -/
def hexDigit (n : Nat) : Char :=
  if n < 10 then Char.ofNat (0x30 + n) else Char.ofNat (0x57 + n)

/-- Two lower-case hexadecimal digits per octet. -/
def hex (bytes : Bytes) : String :=
  String.ofList (bytes.flatMap fun b => [hexDigit (b.toNat / 16), hexDigit (b.toNat % 16)])

/-- The value of a hexadecimal digit in either case. -/
def hexValue? (c : Char) : Option Nat :=
  if '0' ≤ c ∧ c ≤ '9' then some (c.toNat - 0x30)
  else if 'a' ≤ c ∧ c ≤ 'f' then some (c.toNat - 0x57)
  else if 'A' ≤ c ∧ c ≤ 'F' then some (c.toNat - 0x37)
  else none

/-- Reads pairs of hexadecimal digits. -/
def ofHexChars? : List Char → Option Bytes
  | [] => some []
  | hi :: lo :: rest => do
    let h ← hexValue? hi
    let l ← hexValue? lo
    return UInt8.ofNat (16 * h + l) :: (← ofHexChars? rest)
  | [_] => none

/-- The octets that a hexadecimal text names. -/
def ofHex? (s : String) : Option Bytes := ofHexChars? s.toList

/-- The low 32 bits of a number, most significant octet first. -/
def bigEndian (n : Nat) : Bytes :=
  [UInt8.ofNat (n / 0x1000000), UInt8.ofNat (n / 0x10000), UInt8.ofNat (n / 0x100), UInt8.ofNat n]

/-- The number whose digits in base 256 are the four octets. -/
def ofBigEndian (a b c d : UInt8) : Nat :=
  ((a.toNat * 256 + b.toNat) * 256 + c.toNat) * 256 + d.toNat

theorem ofBigEndian_lt (a b c d : UInt8) : ofBigEndian a b c d < 0x100000000 := by
  have ha := a.toNat_lt
  have hb := b.toNat_lt
  have hc := c.toNat_lt
  have hd := d.toNat_lt
  simp only [ofBigEndian]
  omega

theorem length_bigEndian (n : Nat) : (bigEndian n).length = 4 := rfl

theorem ofBigEndian_bigEndian (n : Nat) :
    ofBigEndian (UInt8.ofNat (n / 0x1000000)) (UInt8.ofNat (n / 0x10000))
      (UInt8.ofNat (n / 0x100)) (UInt8.ofNat n) = n % 0x100000000 := by
  simp only [ofBigEndian, UInt8.toNat_ofNat']
  omega

theorem bigEndian_ofBigEndian (a b c d : UInt8) :
    bigEndian (ofBigEndian a b c d) = [a, b, c, d] := by
  have ha := a.toNat_lt
  have hb := b.toNat_lt
  have hc := c.toNat_lt
  have hd := d.toNat_lt
  simp only [bigEndian, ofBigEndian, List.cons.injEq, and_true]
  refine ⟨?_, ?_, ?_, ?_⟩ <;> apply UInt8.toNat_inj.mp <;>
    simp only [UInt8.toNat_ofNat'] <;> omega

end Bytes

end ConnectRpc
