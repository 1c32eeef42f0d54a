import ConnectRpc.Number.Numeral
import Mathlib.Data.Nat.Notation
import Mathlib.Tactic.Common

/-!
# Decimal digits

The digits of a number are ASCII digits, begin with a zero for no number but zero, and spell the
number.
-/

namespace ConnectRpc.Number

theorem isAsciiDigit_eq_isDigit (c : Char) : isAsciiDigit c = c.isDigit := rfl

/-- There are ten of them. -/
theorem isAsciiDigit_iff_mem {c : Char} :
    isAsciiDigit c = true ↔ c ∈ ['0', '1', '2', '3', '4', '5', '6', '7', '8', '9'] := by
  constructor
  · intro h
    have hrange : 48 ≤ c.toNat ∧ c.toNat < 58 := by
      rw [isAsciiDigit_eq_isDigit, Char.isDigit, Bool.and_eq_true, decide_eq_true_eq,
        decide_eq_true_eq] at h
      exact ⟨h.1, Nat.lt_succ_of_le h.2⟩
    have hall : ∀ n < 58, 48 ≤ n →
        Char.ofNat n ∈ ['0', '1', '2', '3', '4', '5', '6', '7', '8', '9'] := by decide
    have hmem := hall c.toNat hrange.2 hrange.1
    rwa [Char.ofNat_toNat] at hmem
  · intro h
    have hall : ['0', '1', '2', '3', '4', '5', '6', '7', '8', '9'].all isAsciiDigit = true := by
      decide
    exact List.all_eq_true.mp hall c h

/-- What has been checked for each of them holds of a digit. -/
theorem of_isAsciiDigit {P : Char → Prop} [DecidablePred P] {c : Char}
    (h : isAsciiDigit c = true)
    (hall : ['0', '1', '2', '3', '4', '5', '6', '7', '8', '9'].all (fun d => P d) = true) : P c :=
  of_decide_eq_true (List.all_eq_true.mp hall c (isAsciiDigit_iff_mem.mp h))

theorem isAsciiDigit_of_mem_toDigits {n : Nat} : ∀ c ∈ Nat.toDigits 10 n, isAsciiDigit c = true :=
  fun _ hc => Nat.isDigit_of_mem_toDigits (by decide) (by decide) hc

theorem digitsValue_toDigits (n : Nat) : digitsValue (Nat.toDigits 10 n) = n := by
  have h : Nat.ofDigitChars 10 (Nat.toDigits 10 n) 0 = n := Nat.ofDigitChars_ten_toDigits
  rw [Nat.ofDigitChars_eq_foldl] at h
  exact h

/-- A number that begins with a zero is zero. -/
theorem head?_toDigits_ne_zero {n : Nat} (h : n ≠ 0) : (Nat.toDigits 10 n).head? ≠ some '0' := by
  induction n using Nat.strongRecOn with
  | ind n ih =>
    by_cases hsmall : n < 10
    · rw [Nat.toDigits_of_lt_base hsmall, List.head?_cons, ne_eq, Option.some.injEq]
      have hdigits : ∀ d < 10, d ≠ 0 → Nat.digitChar d ≠ '0' := by decide
      exact hdigits n hsmall h
    · have hlarge : 10 ≤ n := Nat.le_of_not_lt hsmall
      rw [Nat.toDigits_of_base_le (by decide) hlarge]
      cases hfront : Nat.toDigits 10 (n / 10) with
      | nil => exact absurd hfront Nat.toDigits_ne_nil
      | cons d front =>
        have hhead := ih (n / 10) (by omega) (by omega)
        rwa [hfront] at hhead

theorem toDigits_eq_cons_zero_iff {n : Nat} {rest : List Char} :
    Nat.toDigits 10 n = '0' :: rest ↔ n = 0 ∧ rest = [] := by
  constructor
  · intro h
    have hzero : n = 0 := by
      by_contra hne
      exact head?_toDigits_ne_zero hne (by rw [h]; rfl)
    subst hzero
    rw [Nat.toDigits_zero] at h
    exact ⟨rfl, (List.cons.inj h).2.symm⟩
  · rintro ⟨rfl, rfl⟩
    exact Nat.toDigits_zero _

/-- An integer is written as its digits, with a minus sign before them if it is negative. -/
theorem toList_intText (i : Int) :
    (intText i).toList = (if i < 0 then ['-'] else []) ++ Nat.toDigits 10 i.natAbs := by
  cases i with
  | ofNat n =>
    have hn : ¬ Int.ofNat n < 0 := Int.not_lt_of_ge (Int.natCast_nonneg n)
    rw [if_neg hn, intText, natText, String.toList_ofList]
    rfl
  | negSucc n =>
    have htext : (natText (n + 1)).toList = Nat.toDigits 10 (n + 1) := String.toList_ofList
    rw [if_pos (Int.negSucc_lt_zero n), intText, String.toList_append, htext, Int.natAbs_negSucc]
    rfl

end ConnectRpc.Number
