import ConnectRpc.Call.Percent

/-!
# Octets in a query

An octet in a query is one unreserved character or three characters of an escape, and either can be
told from the first of them. So the octets are read back (`percentDecode_percentChars`), and the
text in the query is a query value (`queryValue_percentChars`): it holds none of the characters that
would end the parameter or begin a fragment.
-/

namespace ConnectRpc.Call

/-! ## Query values -/

/-- A letter, a digit or one of the four marks. -/
def IsUnreservedChar (c : Char) : Prop := c.isAlphanum = true ∨ c ∈ ['-', '.', '_', '~']

instance (c : Char) : Decidable (IsUnreservedChar c) := inferInstanceAs (Decidable (_ ∨ _))

/-- An upper-case hexadecimal digit. -/
def IsUpperHex (c : Char) : Prop := c.isDigit = true ∨ ('A' ≤ c ∧ c ≤ 'F')

instance (c : Char) : Decidable (IsUpperHex c) := inferInstanceAs (Decidable (_ ∨ _))

/-- Characters that are unreserved ones and escapes, in any order. -/
inductive QueryValue : List Char → Prop
  | nil : QueryValue []
  | unreserved {c : Char} {rest : List Char} (hc : IsUnreservedChar c) (hrest : QueryValue rest) :
      QueryValue (c :: rest)
  | escape {hi lo : Char} {rest : List Char} (hhi : IsUpperHex hi) (hlo : IsUpperHex lo)
      (hrest : QueryValue rest) : QueryValue ('%' :: hi :: lo :: rest)

/-- A character that is none of those of a query value does not occur in one. -/
theorem QueryValue.not_mem {c : Char} (hreserved : ¬ IsUnreservedChar c) (hhex : ¬ IsUpperHex c)
    (hpercent : c ≠ '%') {value : List Char} (h : QueryValue value) : c ∉ value := by
  induction h with
  | nil => exact List.not_mem_nil
  | unreserved hc _ ih =>
    rw [List.mem_cons, not_or]
    exact ⟨fun heq => hreserved (heq ▸ hc), ih⟩
  | escape hhi hlo _ ih =>
    simp only [List.mem_cons, not_or]
    exact ⟨hpercent, fun heq => hhex (heq ▸ hhi), fun heq => hhex (heq ▸ hlo), ih⟩

/-! ## Single octets -/

theorem unreserved_octet : ∀ n < 256, isUnreserved (UInt8.ofNat n) = true →
    IsUnreservedChar (Char.ofNat n) ∧ Char.ofNat n ≠ '%' ∧
      String.utf8EncodeChar (Char.ofNat n) = [UInt8.ofNat n] := by decide +kernel

theorem upperHexDigit_spec : ∀ n < 16,
    IsUpperHex (upperHexDigit n) ∧ Bytes.hexValue? (upperHexDigit n) = some n := by decide +kernel

/-- An octet in a query is one of two: itself, or an escape with its two digits. -/
theorem percentOctet_cases (b : UInt8) :
    (∃ c, percentOctet b = [c] ∧ IsUnreservedChar c ∧ c ≠ '%' ∧ String.utf8EncodeChar c = [b]) ∨
      ∃ h l hi lo, percentOctet b = ['%', hi, lo] ∧ IsUpperHex hi ∧ IsUpperHex lo ∧
        Bytes.hexValue? hi = some h ∧ Bytes.hexValue? lo = some l ∧
        UInt8.ofNat (16 * h + l) = b := by
  have hlt := b.toNat_lt
  unfold percentOctet
  by_cases hb : isUnreserved b = true
  · have hoctet := unreserved_octet b.toNat hlt
    rw [UInt8.ofNat_toNat] at hoctet
    obtain ⟨hc, hne, hencode⟩ := hoctet hb
    exact .inl ⟨_, if_pos hb, hc, hne, hencode⟩
  · have hhi : b.toNat / 16 < 16 := by omega
    have hlo : b.toNat % 16 < 16 := by omega
    obtain ⟨hhex, hvalue⟩ := upperHexDigit_spec _ hhi
    obtain ⟨hhex', hvalue'⟩ := upperHexDigit_spec _ hlo
    refine .inr ⟨_, _, _, _, if_neg hb, hhex, hhex', hvalue, hvalue', ?_⟩
    rw [Nat.div_add_mod, UInt8.ofNat_toNat]

/-! ## All octets -/

theorem queryValue_percentChars (bytes : Bytes) : QueryValue (percentChars bytes) := by
  induction bytes with
  | nil => exact .nil
  | cons b rest ih =>
    rw [percentChars, List.flatMap_cons, ← percentChars]
    rcases percentOctet_cases b with ⟨c, hoctet, hc, -⟩ | ⟨_, _, hi, lo, hoctet, hhi, hlo, -⟩
    · rw [hoctet]
      exact .unreserved hc ih
    · rw [hoctet]
      exact .escape hhi hlo ih

theorem percentDecode_cons {c : Char} (hc : c ≠ '%') (rest : List Char) :
    percentDecode (c :: rest) = String.utf8EncodeChar c ++ percentDecode rest := by
  rw [percentDecode]
  intro hi lo rest' h
  exact absurd h hc

/-- **The octets are read back.** -/
theorem percentDecode_percentChars (bytes : Bytes) :
    percentDecode (percentChars bytes) = bytes := by
  induction bytes with
  | nil => rfl
  | cons b rest ih =>
    rw [percentChars, List.flatMap_cons, ← percentChars]
    rcases percentOctet_cases b with
      ⟨c, hoctet, -, hne, hencode⟩ | ⟨h, l, hi, lo, hoctet, -, -, hhi, hlo, hvalue⟩
    · rw [hoctet, List.singleton_append, percentDecode_cons hne, hencode, ih, List.singleton_append]
    · rw [hoctet]
      simp only [List.cons_append, List.nil_append, percentDecode, hhi, hlo, hvalue, ih]

end ConnectRpc.Call
