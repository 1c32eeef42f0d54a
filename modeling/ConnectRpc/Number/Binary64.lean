import ConnectRpc.Number.Numeral

/-!
# Binary floating point, 64 bits

A number of the IEEE 754 format binary64 is a significand below 2^53 times a power of two, in exact
integers, so that rounding and printing are arithmetic on `Nat`. A finite number is in normal form:
its exponent is at least -1074, and its significand has 53 bits unless the exponent is -1074. A
number carries its normal form, and rounding gives it (`inNormalForm_nearest`).

* `Binary64.ofRatio`: the number nearest to a quotient; a tie goes to the even significand.
* `Binary64.ofDecimal`: the number nearest to a decimal, with overflow to infinity.
* `Binary64.toInt?`: the integer that a number equals, if any.
-/

namespace ConnectRpc.Number

namespace Binary64

/-- The exponent of the smallest positive number. -/
def leastExponent : Int := -1074

/-- The greatest exponent of a finite number in normal form. -/
def greatestExponent : Int := 971

/-- The smallest significand of a number in normal form; twice that is too large. -/
def leastNormal : Nat := 0x10000000000000

/-- The normal form of finite numbers, by significand and exponent. -/
structure InNormalForm (significand : Nat) (exponent : Int) : Prop where
  short : significand < 2 * leastNormal
  least : leastExponent ≤ exponent
  greatest : exponent ≤ greatestExponent
  full : leastExponent < exponent → leastNormal ≤ significand

end Binary64

/-- A number of the format binary64; `finite` stands for `significand * 2 ^ exponent`. -/
inductive Binary64 where
  | nan
  | infinite (negative : Bool)
  | finite (negative : Bool) (significand : Nat) (exponent : Int)
      (normal : Binary64.InNormalForm significand exponent)
  deriving DecidableEq, Repr

namespace Binary64

/-- The zero of a sign. -/
def zero (negative : Bool) : Binary64 :=
  .finite negative 0 leastExponent ⟨by decide, by decide, by decide, fun h => by cases h⟩

/-! ## Rounding -/

/-- The quotient rounded to the nearest integer, a tie to the even one. -/
def roundQuotient (num den : Nat) : Nat :=
  let q := num / den
  let r := num % den
  if 2 * r < den then q
  else if 2 * r > den then q + 1
  else if q % 2 = 0 then q else q + 1

/-- The quotient `num / den` divided by `2 ^ e`, again as a quotient. -/
def scale (num den : Nat) (e : Int) : Nat × Nat :=
  if 0 ≤ e then (num, den * Nat.pow 2 e.toNat) else (num * Nat.pow 2 (-e).toNat, den)

/-- The exponent that the binary logarithms suggest. -/
def logExponent (num den : Nat) : Int := (Nat.log2 num : Int) - (Nat.log2 den : Int) - 52

/-- The exponent at which the quotient has 53 binary digits before the point. -/
def normalExponent (num den : Nat) : Int :=
  let scaled := scale num den (logExponent num den)
  if scaled.1 < leastNormal * scaled.2 then logExponent num den - 1 else logExponent num den

/-- Significand and exponent of the number nearest to `num / den`, as if exponents had no upper
bound. -/
def nearest (num den : Nat) : Nat × Int :=
  let e := max (normalExponent num den) leastExponent
  let scaled := scale num den e
  let s := roundQuotient scaled.1 scaled.2
  if s = 2 * leastNormal then (leastNormal, e + 1) else (s, e)

section

variable {num den : Nat} {e : Int}

theorem le_roundQuotient (num den : Nat) : num / den ≤ roundQuotient num den := by
  unfold roundQuotient
  grind

theorem roundQuotient_le (num den : Nat) : roundQuotient num den ≤ num / den + 1 := by
  unfold roundQuotient
  grind

/-- The scaled quotient against a whole number, without a case for each sign of the exponent. -/
theorem scale_lt_iff {k : Nat} : (scale num den e).1 < k * (scale num den e).2 ↔
    num * Nat.pow 2 (-e).toNat < k * (den * Nat.pow 2 e.toNat) := by
  unfold scale
  by_cases h : 0 ≤ e
  · have hone : num * Nat.pow 2 (-e).toNat = num := by
      rw [show (-e).toNat = 0 by omega]
      exact Nat.mul_one num
    rw [if_pos h, hone]
  · have hone : den * Nat.pow 2 e.toNat = den := by
      rw [show e.toNat = 0 by omega]
      exact Nat.mul_one den
    rw [if_neg h, hone]

/-- From the exponent that the logarithms suggest on, the quotient has at most 53 digits before the
point. -/
theorem scale_lt_of_le (hden : den ≠ 0) (h : logExponent num den ≤ e) :
    (scale num den e).1 < 2 * leastNormal * (scale num den e).2 := by
  have hexponents : Nat.log2 num + 1 + (-e).toNat ≤ 53 + (Nat.log2 den + e.toNat) := by
    unfold logExponent at h
    omega
  rw [scale_lt_iff]
  calc num * 2 ^ (-e).toNat
      < 2 ^ (Nat.log2 num + 1) * 2 ^ (-e).toNat :=
        Nat.mul_lt_mul_of_pos_right Nat.lt_log2_self (Nat.two_pow_pos _)
    _ = 2 ^ (Nat.log2 num + 1 + (-e).toNat) := (Nat.pow_add ..).symm
    _ ≤ 2 ^ (53 + (Nat.log2 den + e.toNat)) := Nat.pow_le_pow_right Nat.two_pos hexponents
    _ = 2 * leastNormal * (2 ^ Nat.log2 den * 2 ^ e.toNat) := by rw [Nat.pow_add, Nat.pow_add]; rfl
    _ ≤ 2 * leastNormal * (den * 2 ^ e.toNat) :=
        Nat.mul_le_mul_left _ (Nat.mul_le_mul_right _ (Nat.log2_self_le hden))

/-- Below that exponent it has at least 53. -/
theorem le_scale_of_lt (hnum : num ≠ 0) (h : e < logExponent num den) :
    leastNormal * (scale num den e).2 ≤ (scale num den e).1 := by
  have hexponents : 52 + (Nat.log2 den + 1 + e.toNat) ≤ Nat.log2 num + (-e).toNat := by
    unfold logExponent at h
    omega
  rw [← Nat.not_lt, scale_lt_iff, Nat.not_lt]
  calc leastNormal * (den * 2 ^ e.toNat)
      ≤ leastNormal * (2 ^ (Nat.log2 den + 1) * 2 ^ e.toNat) :=
        Nat.mul_le_mul_left _ (Nat.mul_le_mul_right _ (Nat.le_of_lt Nat.lt_log2_self))
    _ = 2 ^ (52 + (Nat.log2 den + 1 + e.toNat)) := by
        rw [Nat.pow_add 2 52, Nat.pow_add 2 (Nat.log2 den + 1)]; rfl
    _ ≤ 2 ^ (Nat.log2 num + (-e).toNat) := Nat.pow_le_pow_right Nat.two_pos hexponents
    _ = 2 ^ Nat.log2 num * 2 ^ (-e).toNat := Nat.pow_add ..
    _ ≤ num * 2 ^ (-e).toNat := Nat.mul_le_mul_right _ (Nat.log2_self_le hnum)

/-- One exponent lower the quotient is twice as large. -/
theorem scale_pred_lt {k : Nat} (h : (scale num den e).1 < k * (scale num den e).2) :
    (scale num den (e - 1)).1 < 2 * k * (scale num den (e - 1)).2 := by
  rw [scale_lt_iff] at h ⊢
  by_cases hpos : 0 < e
  · have hnum : (-(e - 1)).toNat = (-e).toNat := by omega
    have hden : e.toNat = (e - 1).toNat + 1 := by omega
    rw [hden] at h
    rw [hnum]
    calc num * Nat.pow 2 (-e).toNat
        < k * (den * (Nat.pow 2 (e - 1).toNat * 2)) := h
      _ = 2 * k * (den * Nat.pow 2 (e - 1).toNat) := by ac_rfl
  · have hnum : (-(e - 1)).toNat = (-e).toNat + 1 := by omega
    have hden : (e - 1).toNat = e.toNat := by omega
    rw [hnum, hden]
    calc num * (Nat.pow 2 (-e).toNat * 2)
        = 2 * (num * Nat.pow 2 (-e).toNat) := by ac_rfl
      _ < 2 * (k * (den * Nat.pow 2 e.toNat)) := Nat.mul_lt_mul_of_pos_left h Nat.two_pos
      _ = 2 * k * (den * Nat.pow 2 e.toNat) := (Nat.mul_assoc ..).symm

/-- At the exponent in question and above it the quotient has at most 53 digits. -/
theorem scale_normalExponent_lt (hden : den ≠ 0) (h : normalExponent num den ≤ e) :
    (scale num den e).1 < 2 * leastNormal * (scale num den e).2 := by
  dsimp only [normalExponent] at h
  split at h
  · next hsmall =>
    by_cases heq : e = logExponent num den - 1
    · rw [heq]
      exact scale_pred_lt hsmall
    · exact scale_lt_of_le hden (by omega)
  · exact scale_lt_of_le hden h

/-- At the exponent in question it has at least 53. -/
theorem le_scale_normalExponent (hnum : num ≠ 0) :
    leastNormal * (scale num den (normalExponent num den)).2 ≤
      (scale num den (normalExponent num den)).1 := by
  dsimp only [normalExponent]
  split
  · exact le_scale_of_lt hnum (by omega)
  · next hlarge => exact Nat.le_of_not_lt hlarge

/-- The nearest number is in normal form, if it is not too large. -/
theorem inNormalForm_nearest (hnum : num ≠ 0) (hden : den ≠ 0)
    (h : (nearest num den).2 ≤ greatestExponent) :
    InNormalForm (nearest num den).1 (nearest num den).2 := by
  dsimp only [nearest] at h ⊢
  generalize he : max (normalExponent num den) leastExponent = e at h ⊢
  have hlt := scale_normalExponent_lt hden (show normalExponent num den ≤ e by omega)
  have hpos : 0 < (scale num den e).2 := Nat.pos_of_mul_pos_left (Nat.zero_lt_of_lt hlt)
  have hupper := roundQuotient_le (scale num den e).1 (scale num den e).2
  have hlower := le_roundQuotient (scale num den e).1 (scale num den e).2
  have hquotient := (Nat.div_lt_iff_lt_mul hpos).mpr hlt
  split at h
  · next hcarry =>
    rw [if_pos hcarry]
    exact ⟨by dsimp only [leastNormal]; omega, by dsimp only; omega, h, fun _ => Nat.le_refl _⟩
  · next hcarry =>
    rw [if_neg hcarry]
    refine ⟨by dsimp only; omega, by dsimp only; omega, h, fun hleast => ?_⟩
    have hnormal : e = normalExponent num den := by dsimp only at hleast; omega
    have hlarge := @le_scale_normalExponent num den hnum
    rw [← hnormal] at hlarge
    exact Nat.le_trans ((Nat.le_div_iff_mul_le hpos).mpr hlarge) hlower

end

/-- The number nearest to `num / den`. Zero over anything is zero, and else anything over zero is
infinite. -/
def ofRatio (negative : Bool) (num den : Nat) : Binary64 :=
  if hnum : num = 0 then zero negative
  else if hden : den = 0 then .infinite negative
  else if h : (nearest num den).2 ≤ greatestExponent then
    .finite negative (nearest num den).1 (nearest num den).2 (inNormalForm_nearest hnum hden h)
  else .infinite negative

/-- The number nearest to `digits * 10 ^ exponent`. Quotients far outside the range are recognised
by their number of digits, so that no large power is formed. -/
def ofDecimal (negative : Bool) (digits : Nat) (exponent : Int) : Binary64 :=
  let magnitude : Int := (Nat.toDigits 10 digits).length + exponent
  if digits = 0 then zero negative
  else if magnitude > 310 then .infinite negative
  else if magnitude < -330 then zero negative
  else if 0 ≤ exponent then ofRatio negative (digits * Nat.pow 10 exponent.toNat) 1
  else ofRatio negative digits (Nat.pow 10 (-exponent).toNat)

/-! ## Signs, integers, equality -/

/-- The number with the other sign. -/
def neg : Binary64 → Binary64
  | .nan => .nan
  | .infinite negative => .infinite !negative
  | .finite negative s e normal => .finite (!negative) s e normal

/-- The number is a real. -/
def isFinite : Binary64 → Bool
  | .finite _ _ _ _ => true
  | _ => false

/-- The number is a zero of either sign. -/
def isZero : Binary64 → Bool
  | .finite _ s _ _ => s == 0
  | _ => false

/-- The integer that the number equals. -/
def toInt? : Binary64 → Option Int
  | .nan => none
  | .infinite _ => none
  | .finite negative s e _ =>
    let magnitude? : Option Nat :=
      if 0 ≤ e then some (s * Nat.pow 2 e.toNat)
      else if s % Nat.pow 2 (-e).toNat = 0 then some (s / Nat.pow 2 (-e).toNat)
      else none
    magnitude?.map fun m => if negative then -(m : Int) else (m : Int)

/-- Numeric equality: a NaN equals nothing and the two zeros are equal. -/
def same (x y : Binary64) : Bool :=
  match x, y with
  | .nan, _ => false
  | _, .nan => false
  | x, y => (x.isZero && y.isZero) || x == y

end Binary64

end ConnectRpc.Number
