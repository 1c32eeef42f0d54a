import ConnectRpc.Text.Utf8
import Mathlib.Tactic.Common

/-!
# UTF-8 there and back

The octets of a text are well formed, and they are decoded to the text again
(`decodeChars?_encode`). Each character is decoded on its own, from its first octet on and whatever
follows it (`front_encodeChar`): the first octet tells how many there are, and the second one leaves
no choice about the shortest form and about surrogates, since a character is neither written too
long nor a surrogate.
-/

namespace ConnectRpc.Utf8

/-! ## Octets as numbers -/

theorem isTail_of {b : UInt8} (hlow : 0x80 ≤ b.toNat) (hhigh : b.toNat ≤ 0xBF) :
    isTail b = true := by
  have hlow' : (0x80 : UInt8) ≤ b := UInt8.le_iff_toNat_le.mpr hlow
  have hhigh' : b ≤ (0xBF : UInt8) := UInt8.le_iff_toNat_le.mpr hhigh
  simp only [isTail, hlow', hhigh', decide_true, Bool.and_self]

/-- Which octet may be second depends on the first where the form could be too long, a surrogate or
beyond the last code point. -/
theorem isSecond_of {lead b : UInt8} (hlow : 0x80 ≤ b.toNat) (hhigh : b.toNat ≤ 0xBF)
    (hE0 : lead.toNat = 0xE0 → 0xA0 ≤ b.toNat) (hED : lead.toNat = 0xED → b.toNat ≤ 0x9F)
    (hF0 : lead.toNat = 0xF0 → 0x90 ≤ b.toNat) (hF4 : lead.toNat = 0xF4 → b.toNat ≤ 0x8F) :
    isSecond lead b = true := by
  have hrange : (secondRange lead).1.toNat ≤ b.toNat ∧ b.toNat ≤ (secondRange lead).2.toNat := by
    unfold secondRange
    split
    next h => exact ⟨hE0 (congrArg UInt8.toNat h), hhigh⟩
    split
    next h => exact ⟨hlow, hED (congrArg UInt8.toNat h)⟩
    split
    next h => exact ⟨hF0 (congrArg UInt8.toNat h), hhigh⟩
    split
    next h => exact ⟨hlow, hF4 (congrArg UInt8.toNat h)⟩
    next => exact ⟨hlow, hhigh⟩
  simp only [isSecond, UInt8.le_iff_toNat_le, hrange.1, hrange.2, decide_true, Bool.and_self]

/-- An octet that continues a sequence with six bits. -/
def tailOctet (bits : Nat) : UInt8 := UInt8.ofNat (bits % 64 + 128)

theorem toNat_tailOctet (bits : Nat) : (tailOctet bits).toNat = bits % 64 + 128 := by
  rw [tailOctet, UInt8.toNat_ofNat']
  omega

theorem tailBits_tailOctet (bits : Nat) : tailBits (tailOctet bits) = bits % 64 := by
  rw [tailBits, toNat_tailOctet]
  omega

theorem isTail_tailOctet (bits : Nat) : isTail (tailOctet bits) = true := by
  refine isTail_of ?_ ?_ <;> rw [toNat_tailOctet] <;> omega

/-! ## Characters of one, two, three and four octets -/

section

variable {n : Nat} (rest : Bytes)

theorem front_one (h : n < 0x80) : front (UInt8.ofNat n) rest = (some (Char.ofNat n), rest) := by
  have hlead : (UInt8.ofNat n).toNat = n := by
    rw [UInt8.toNat_ofNat']
    omega
  have hlt : UInt8.ofNat n < 0x80 := by
    rw [UInt8.lt_iff_toNat_lt, hlead]
    exact h
  unfold front
  rw [if_pos hlt, hlead]

theorem front_two (h : 0x80 ≤ n) (h' : n < 0x800) :
    front (UInt8.ofNat (n / 64 % 32 + 192)) (tailOctet n :: rest) =
      (some (Char.ofNat n), rest) := by
  have hlead : (UInt8.ofNat (n / 64 % 32 + 192)).toNat = n / 64 % 32 + 192 := by
    rw [UInt8.toNat_ofNat']
    omega
  have hbits : (n / 64 % 32 + 192) % 32 * 64 + n % 64 = n := by omega
  simp only [front, UInt8.lt_iff_toNat_lt, hlead, UInt8.reduceToNat]
  rw [if_neg (by omega), if_neg (by omega), if_pos (by omega), if_pos (isTail_tailOctet n),
    tailBits_tailOctet, hbits]

theorem front_three (h : 0x800 ≤ n) (h' : n < 0x10000) (hscalar : n < 0xD800 ∨ 0xDFFF < n) :
    front (UInt8.ofNat (n / 4096 % 16 + 224)) (tailOctet (n / 64) :: tailOctet n :: rest) =
      (some (Char.ofNat n), rest) := by
  have hlead : (UInt8.ofNat (n / 4096 % 16 + 224)).toNat = n / 4096 % 16 + 224 := by
    rw [UInt8.toNat_ofNat']
    omega
  have hsecond : isSecond (UInt8.ofNat (n / 4096 % 16 + 224)) (tailOctet (n / 64)) = true := by
    refine isSecond_of ?_ ?_ ?_ ?_ ?_ ?_ <;> simp only [toNat_tailOctet, hlead] <;> omega
  have hbits : ((n / 4096 % 16 + 224) % 16 * 64 + n / 64 % 64) * 64 + n % 64 = n := by omega
  simp only [front, UInt8.lt_iff_toNat_lt, hlead, UInt8.reduceToNat]
  rw [if_neg (by omega), if_neg (by omega), if_neg (by omega), if_pos (by omega), if_pos hsecond,
    if_pos (isTail_tailOctet n), tailBits_tailOctet, tailBits_tailOctet, hbits]

theorem front_four (h : 0x10000 ≤ n) (h' : n < 0x110000) :
    front (UInt8.ofNat (n / 262144 % 8 + 240))
        (tailOctet (n / 4096) :: tailOctet (n / 64) :: tailOctet n :: rest) =
      (some (Char.ofNat n), rest) := by
  have hlead : (UInt8.ofNat (n / 262144 % 8 + 240)).toNat = n / 262144 % 8 + 240 := by
    rw [UInt8.toNat_ofNat']
    omega
  have hsecond : isSecond (UInt8.ofNat (n / 262144 % 8 + 240)) (tailOctet (n / 4096)) = true := by
    refine isSecond_of ?_ ?_ ?_ ?_ ?_ ?_ <;> simp only [toNat_tailOctet, hlead] <;> omega
  have hbits : (((n / 262144 % 8 + 240) % 8 * 64 + n / 4096 % 64) * 64 + n / 64 % 64) * 64 +
      n % 64 = n := by omega
  simp only [front, UInt8.lt_iff_toNat_lt, hlead, UInt8.reduceToNat]
  rw [if_neg (by omega), if_neg (by omega), if_neg (by omega), if_neg (by omega),
    if_pos (by omega), if_pos hsecond, if_pos (isTail_tailOctet _), if_pos (isTail_tailOctet n),
    tailBits_tailOctet, tailBits_tailOctet, tailBits_tailOctet, hbits]

end

/-! ## Texts -/

/-- A character is no surrogate and not beyond the last code point. -/
theorem toNat_range (c : Char) : c.toNat < 0xD800 ∨ (0xDFFF < c.toNat ∧ c.toNat < 0x110000) :=
  c.valid

/-- A character is decoded from its octets, whatever follows them. -/
theorem front_encodeChar (c : Char) (rest : Bytes) :
    ∃ lead tail, String.utf8EncodeChar c = lead :: tail ∧
      front lead (tail ++ rest) = (some c, rest) := by
  have hrange := toNat_range c
  have hchar : (some (Char.ofNat c.toNat), rest) = (some c, rest) := by rw [Char.ofNat_toNat]
  unfold String.utf8EncodeChar
  dsimp only
  split
  next h => exact ⟨_, _, rfl, (front_one rest (Nat.lt_succ_of_le h)).trans hchar⟩
  next h =>
    have hone : 0x80 ≤ c.toNat := Nat.lt_of_not_le h
    split
    next h => exact ⟨_, _, rfl, (front_two rest hone (Nat.lt_succ_of_le h)).trans hchar⟩
    next h =>
      have htwo : 0x800 ≤ c.toNat := Nat.lt_of_not_le h
      split
      next h =>
        exact ⟨_, _, rfl, (front_three rest htwo (Nat.lt_succ_of_le h)
          (hrange.imp id And.left)).trans hchar⟩
      next h =>
        have hthree : 0x10000 ≤ c.toNat := Nat.lt_of_not_le h
        exact ⟨_, _, rfl, (front_four rest hthree (by omega)).trans hchar⟩

/-- **The octets of a text are decoded to the text.** -/
theorem decodeChars?_encode (s : String) : decodeChars? (encode s) = some s.toList := by
  rw [encode]
  induction s.toList with
  | nil => rw [List.flatMap_nil, decodeChars?]
  | cons c cs ih =>
    obtain ⟨lead, tail, hencode, hfront⟩ :=
      front_encodeChar c (cs.flatMap String.utf8EncodeChar)
    rw [List.flatMap_cons, hencode, List.cons_append, decodeChars?, hfront]
    simp only [ih, Option.map_some]

end ConnectRpc.Utf8
