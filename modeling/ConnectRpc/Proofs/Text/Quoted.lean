import ConnectRpc.Text.Quoted
import Mathlib.Algebra.Group.Nat.Defs
import Mathlib.Tactic.Common

/-!
# What quoted texts are put together of

Between its quotes a character is written in one of four ways (`QuotedChar`): as it stands, or
behind a backslash by itself, by a letter, or by its code in as many hexadecimal digits as the mark
in front of them calls for. What holds of every quoted text is shown by cases of these.
-/

namespace ConnectRpc.Text

/-! ## Hexadecimal digits -/

theorem exists_of_mem_toDigits {n : Nat} {c : Char} (h : c ∈ Nat.toDigits 16 n) :
    ∃ digit < 16, c = Nat.digitChar digit := by
  induction n using Nat.strongRecOn with
  | ind n ih =>
    rw [Nat.toDigits_eq_if (by decide)] at h
    split at h
    · next hsmall => exact ⟨n, hsmall, List.mem_singleton.mp h⟩
    · next hlarge =>
      rcases List.mem_append.mp h with h | h
      · exact ih (n / 16) (by omega) h
      · exact ⟨n % 16, by omega, List.mem_singleton.mp h⟩

theorem exists_of_mem_hexPadded {width n : Nat} {c : Char} (h : c ∈ hexPadded width n) :
    ∃ digit < 16, c = Nat.digitChar digit := by
  rcases List.mem_append.mp h with h | h
  · exact ⟨0, by decide, (List.mem_replicate.mp h).2⟩
  · exact exists_of_mem_toDigits h

theorem length_hexPadded {width n : Nat} (hwidth : 0 < width) (h : n < 16 ^ width) :
    (hexPadded width n).length = width := by
  have hdigits := (Nat.length_toDigits_le_iff (by decide) hwidth).mpr h
  rw [hexPadded, List.length_append, List.length_replicate]
  omega

/-! ## Characters between quotes -/

/-- The letters that stand for a character behind a backslash. -/
def quotedLetters : List (Char × Char) := [('t', '\t'), ('n', '\n'), ('r', '\r')]

/-- The marks in front of a code, and the number of its digits. -/
def codeMarks : List (Char × Nat) := [('x', 2), ('u', 4), ('U', 8)]

/-- The ways in which a character is written between the quotes `q`. -/
inductive QuotedChar (q c : Char) : List Char → Prop where
  | self (h : c = q ∨ c = '\\') : QuotedChar q c ['\\', c]
  | letter {e : Char} (h : (e, c) ∈ quotedLetters) : QuotedChar q c ['\\', e]
  | plain (hprintable : isPrintable c = true) (hquote : c ≠ q) (hbackslash : c ≠ '\\')
      (hfeed : c ≠ '\n') : QuotedChar q c [c]
  | code {mark : Char} {width : Nat} (h : (mark, width) ∈ codeMarks)
      (hcode : c.toNat < 16 ^ width) : QuotedChar q c ('\\' :: mark :: hexPadded width c.toNat)

theorem quotedChar_quoteChar (q c : Char) : QuotedChar q c (quoteChar q c) := by
  unfold quoteChar
  split_ifs with hself htab hfeed hreturn hprintable hshort hmiddle
  · exact .self hself
  · exact .letter (by simp [quotedLetters, htab])
  · exact .letter (by simp [quotedLetters, hfeed])
  · exact .letter (by simp [quotedLetters, hreturn])
  · exact .plain hprintable (not_or.mp hself).1 (not_or.mp hself).2 hfeed
  · exact .code (by simp [codeMarks]) hshort
  · exact .code (by simp [codeMarks]) hmiddle
  · exact .code (by simp [codeMarks]) c.val.toNat_lt

/-- The quote of a text is one of two. -/
theorem quoteFor_cases (cs : List Char) : quoteFor cs = '\'' ∨ quoteFor cs = '"' := by
  unfold quoteFor
  split
  · exact .inr rfl
  · exact .inl rfl

end ConnectRpc.Text
