import ConnectRpc.Number.Shortest
import Mathlib.Tactic.Common
import Mathlib.Tactic.Ring

/-!
# A shortest decimal is found

The grids from one digit to seventeen are enough: on the last of them the points are closer together
than the ends of the interval that rounds to the number, so that one of the number's two neighbours
lies in it (`Rounding.exists_pointOn?`). No grid is coarser than the number is large, so the point
that is found is not zero (`shortest_ne_zero`).

Points and ends are compared as the definitions do it, by natural numbers over a common denominator.
-/

namespace ConnectRpc.Number

namespace Rounding

variable {r : Rounding} {g g' : Int} {n : Nat}

/-! ## Points of a grid -/

/-- The distance of two points of the grid, over the denominator. -/
def step (r : Rounding) (g : Int) : Nat := Nat.pow 10 g.toNat * r.denominator

/-- What numerators are multiplied with on the grid. -/
def refinement (g : Int) : Nat := Nat.pow 10 (-g).toNat

/-- The number lies between the ends of the interval. -/
structure Encloses (r : Rounding) : Prop where
  low : r.low < r.value
  high : r.value < r.high
  positive : 0 < r.denominator

theorem refinement_pos (g : Int) : 0 < refinement g := Nat.pow_pos (by decide)

theorem Encloses.step_pos (h : r.Encloses) (g : Int) : 0 < r.step g :=
  Nat.mul_pos (Nat.pow_pos (by decide)) h.positive

theorem gridSides_eq (r : Rounding) (n : Nat) (g : Int) (numerator : Nat) :
    gridSides r.denominator n g numerator = (n * r.step g, numerator * refinement g) := by
  rw [gridSides, step, Nat.mul_assoc]
  rfl

theorem floorOn_eq (r : Rounding) (g : Int) :
    r.floorOn g = r.value * refinement g / r.step g := rfl

/-- A point strictly between the ends is in the interval, whether that includes its ends or not. -/
theorem holds_of_lt (hlow : r.low * refinement g < n * r.step g)
    (hhigh : n * r.step g < r.high * refinement g) : r.holds n g = true := by
  simp only [holds, gridSides_eq]
  split
  · exact Bool.and_eq_true_iff.mpr ⟨decide_eq_true hlow.le, decide_eq_true hhigh.le⟩
  · exact Bool.and_eq_true_iff.mpr ⟨decide_eq_true hlow, decide_eq_true hhigh⟩

/-- What is found on a grid is one of the number's two neighbours. -/
theorem floorOn_le_of_pointOn? (h : r.pointOn? g = some n) : r.floorOn g ≤ n := by
  dsimp only [pointOn?] at h
  repeat' split at h
  all_goals cases h
  all_goals omega

/-- Where one of the neighbours is held, one is found. -/
theorem exists_pointOn?_of_holds
    (h : r.holds (r.floorOn g) g = true ∨ r.holds (r.floorOn g + 1) g = true) :
    ∃ n, r.pointOn? g = some n := by
  dsimp only [pointOn?]
  cases hfloor : r.holds (r.floorOn g) g with
  | true =>
    cases hnext : r.holds (r.floorOn g + 1) g with
    | true =>
      dsimp only
      split_ifs <;> exact ⟨_, rfl⟩
    | false => exact ⟨_, rfl⟩
  | false =>
    rw [hfloor] at h
    rw [h.resolve_left (by decide)]
    exact ⟨_, rfl⟩

/-- On a grid finer than the interval a point is found. -/
theorem exists_pointOn? (h : r.Encloses)
    (hfine : r.step g < (r.high - r.low) * refinement g) : ∃ n, r.pointOn? g = some n := by
  have hq := refinement_pos g
  have hlow := Nat.mul_lt_mul_of_pos_right h.low hq
  have hhigh := Nat.mul_lt_mul_of_pos_right h.high hq
  have hfloor : r.floorOn g * r.step g ≤ r.value * refinement g := Nat.div_mul_le_self _ _
  have hnext : r.value * refinement g < (r.floorOn g + 1) * r.step g := by
    rw [floorOn_eq, Nat.mul_comm (_ + 1)]
    exact Nat.lt_mul_div_succ _ (h.step_pos g)
  rw [Nat.sub_mul] at hfine
  refine exists_pointOn?_of_holds ?_
  -- the two neighbours are one step apart, so they do not lie on both sides of the interval
  by_cases hbelow : r.low * refinement g < r.floorOn g * r.step g
  · exact .inl (holds_of_lt hbelow (by omega))
  · refine .inr (holds_of_lt (by omega) ?_)
    rw [Nat.add_one_mul]
    omega

/-! ## Powers of ten below the number -/

theorem atLeast_iff : r.atLeast g = true ↔ r.step g ≤ r.value * refinement g := decide_eq_true_iff

/-- What is at least a power of ten is at least a lower one. -/
theorem atLeast_of_le (hle : g' ≤ g) (h : r.atLeast g = true) : r.atLeast g' = true := by
  rw [atLeast_iff] at h ⊢
  calc r.step g'
      ≤ r.step g := Nat.mul_le_mul_right _ (Nat.pow_le_pow_right (by decide) (by omega))
    _ ≤ r.value * refinement g := h
    _ ≤ r.value * refinement g' :=
        Nat.mul_le_mul_left _ (Nat.pow_le_pow_right (by decide) (by omega))

theorem floorOn_pos (h : r.Encloses) (hg : r.atLeast g = true) : 0 < r.floorOn g :=
  Nat.div_pos (atLeast_iff.mp hg) (h.step_pos g)

/-- Sixteen digits further the steps are that much smaller. -/
theorem step_mul_le (h : r.atLeast g = true) :
    r.step (g - 16) * 10 ^ 16 ≤ r.value * refinement (g - 16) := by
  have hsame : r.step (g - 16) * 10 ^ 16 * refinement g = r.step g * refinement (g - 16) := by
    have hexponents : (g - 16).toNat + 16 + (-g).toNat = g.toNat + (-(g - 16)).toNat := by omega
    have hpowers := congrArg (10 ^ ·) hexponents
    simp only [Nat.pow_add] at hpowers
    calc r.step (g - 16) * 10 ^ 16 * refinement g
        = 10 ^ (g - 16).toNat * 10 ^ 16 * 10 ^ (-g).toNat * r.denominator := by
          simp only [step, refinement, Nat.pow_eq]; ring
      _ = r.step g * refinement (g - 16) := by
          rw [hpowers]; simp only [step, refinement, Nat.pow_eq]; ring
  refine Nat.le_of_mul_le_mul_right ?_ (refinement_pos g)
  calc r.step (g - 16) * 10 ^ 16 * refinement g
      = r.step g * refinement (g - 16) := hsame
    _ ≤ r.value * refinement g * refinement (g - 16) :=
        Nat.mul_le_mul_right _ (atLeast_iff.mp h)
    _ = r.value * refinement (g - 16) * refinement g := by ring

end Rounding

/-! ## The estimate of the logarithm -/

/-- The estimate of the logarithm of two to base ten is 30103 / 100000. In the range of the format
the powers are off by less than a hundred. -/
theorem ten_pow_le {k l : Nat} (h : 100000 * k ≤ 30103 * l) (hl : l ≤ 1100) :
    10 ^ k ≤ 100 * 2 ^ l := by
  refine (Nat.pow_le_pow_iff_left (show 3 ≠ 0 by decide)).mp ?_
  calc (10 ^ k) ^ 3
      = (10 ^ 3) ^ k := Nat.pow_right_comm ..
    _ ≤ (2 ^ 10) ^ k := Nat.pow_le_pow_left (by decide) _
    _ = 2 ^ (10 * k) := (Nat.pow_mul ..).symm
    _ ≤ 2 ^ (19 + l * 3) := Nat.pow_le_pow_right (by decide) (by omega)
    _ = 2 ^ 19 * (2 ^ l) ^ 3 := by rw [Nat.pow_add, Nat.pow_mul]
    _ ≤ 100 ^ 3 * (2 ^ l) ^ 3 := Nat.mul_le_mul_right _ (by decide)
    _ = (100 * 2 ^ l) ^ 3 := (Nat.mul_pow ..).symm

theorem two_pow_le {k l : Nat} (h : 30103 * l ≤ 100000 * k) (hl : l ≤ 1100) :
    2 ^ l ≤ 100 * 10 ^ k := by
  refine (Nat.pow_le_pow_iff_left (show 28 ≠ 0 by decide)).mp ?_
  calc (2 ^ l) ^ 28
      = 2 ^ (l * 28) := (Nat.pow_mul ..).symm
    _ ≤ 2 ^ (186 + 93 * k) := Nat.pow_le_pow_right (by decide) (by omega)
    _ = 2 ^ 186 * (2 ^ 93) ^ k := by rw [Nat.pow_add, Nat.pow_mul]
    _ ≤ 100 ^ 28 * (10 ^ 28) ^ k :=
        Nat.mul_le_mul (by decide) (Nat.pow_le_pow_left (by decide) _)
    _ = (100 * 10 ^ k) ^ 28 := by rw [Nat.mul_pow, Nat.pow_right_comm]

/-- The power of ten of the estimate, two lower, is no larger than the power of two. -/
theorem ten_pow_estimate_le {l : Int} (hlow : -1100 ≤ l) (hhigh : l ≤ 1100) :
    10 ^ (l * 30103 / 100000 - 2).toNat * 2 ^ (-l).toNat ≤
      2 ^ l.toNat * 10 ^ (-(l * 30103 / 100000 - 2)).toNat := by
  by_cases hpos : 0 ≤ l
  · have hneg : (-l).toNat = 0 := by omega
    rw [hneg, Nat.pow_zero, Nat.mul_one]
    by_cases hsmall : l * 30103 / 100000 < 2
    · have hzero : (l * 30103 / 100000 - 2).toNat = 0 := by omega
      rw [hzero]
      exact Nat.mul_pos (Nat.two_pow_pos _) (Nat.pow_pos (by decide))
    · have hzero : (-(l * 30103 / 100000 - 2)).toNat = 0 := by omega
      have hten := @ten_pow_le ((l * 30103 / 100000 - 2).toNat + 2) l.toNat (by omega) (by omega)
      rw [Nat.pow_add] at hten
      rw [hzero]
      omega
  · have hzero : (l * 30103 / 100000 - 2).toNat = 0 := by omega
    have hlpos : l.toNat = 0 := by omega
    obtain ⟨k, hk⟩ : ∃ k, (-(l * 30103 / 100000 - 2)).toNat = k + 2 :=
      ⟨(-(l * 30103 / 100000)).toNat, by omega⟩
    have htwo := @two_pow_le k (-l).toNat (by omega) (by omega)
    rw [hzero, hlpos, hk, Nat.pow_add]
    omega

/-- The power of ten that the search begins with is not above the number. -/
theorem Rounding.atLeast_decade {r : Rounding} {d : Nat} (hvalue : r.value ≠ 0)
    (hdenominator : r.denominator = 2 ^ d) (hlow : (d : Int) - 1100 ≤ Nat.log2 r.value)
    (hhigh : (Nat.log2 r.value : Int) ≤ d + 1100) : r.atLeast r.decade = true := by
  dsimp only [Rounding.decade]
  rw [hdenominator, Nat.log2_two_pow]
  generalize hguess : ((Nat.log2 r.value : Int) - d) * 30103 / 100000 = guess
  cases hfound : [guess + 2, guess + 1, guess, guess - 1].find? r.atLeast with
  | some k => exact List.find?_some hfound
  | none =>
    rw [Option.getD_none, atLeast_iff, step, refinement, hdenominator]
    have hestimate := @ten_pow_estimate_le ((Nat.log2 r.value : Int) - d) (by omega) (by omega)
    rw [hguess] at hestimate
    -- the two powers of two, but for what they have in common
    obtain ⟨common, hd, hlog⟩ : ∃ common, d = (-((Nat.log2 r.value : Int) - d)).toNat + common ∧
        Nat.log2 r.value = ((Nat.log2 r.value : Int) - d).toNat + common :=
      ⟨min (Nat.log2 r.value) d, by omega, by omega⟩
    calc Nat.pow 10 (guess - 2).toNat * 2 ^ d
        = 10 ^ (guess - 2).toNat * 2 ^ (-((Nat.log2 r.value : Int) - d)).toNat * 2 ^ common := by
          rw [Nat.mul_assoc, ← Nat.pow_add, ← hd]; rfl
      _ ≤ 2 ^ ((Nat.log2 r.value : Int) - d).toNat * 10 ^ (-(guess - 2)).toNat * 2 ^ common :=
          Nat.mul_le_mul_right _ hestimate
      _ = 2 ^ Nat.log2 r.value * Nat.pow 10 (-(guess - 2)).toNat := by
          rw [Nat.mul_right_comm, ← Nat.pow_add, ← hlog]; rfl
      _ ≤ r.value * Nat.pow 10 (-(guess - 2)).toNat :=
          Nat.mul_le_mul_right _ (Nat.log2_self_le hvalue)

/-! ## Finite numbers -/

section

variable {s : Nat} {e : Int}

theorem Rounding.encloses_of (hs : s ≠ 0) : (Rounding.of s e).Encloses := by
  have hquarter : 0 < Nat.pow 2 (e - 2).toNat := Nat.two_pow_pos _
  refine ⟨?_, ?_, Nat.two_pow_pos _⟩
  · refine Nat.mul_lt_mul_of_pos_right ?_ hquarter
    split <;> omega
  · exact Nat.mul_lt_mul_of_pos_right (by omega) hquarter

/-- The interval is wider than the number with sixteen digits less. -/
theorem Rounding.value_lt_of (h : Binary64.InNormalForm s e) :
    (Rounding.of s e).value < ((Rounding.of s e).high - (Rounding.of s e).low) * 10 ^ 16 := by
  have hquarter : 0 < Nat.pow 2 (e - 2).toNat := Nat.two_pow_pos _
  have hnormal : Binary64.leastNormal = 0x10000000000000 := rfl
  have hshort := h.short
  dsimp only [Rounding.of]
  rw [← Nat.sub_mul, Nat.mul_right_comm _ _ (10 ^ 16)]
  refine Nat.mul_lt_mul_of_pos_right ?_ hquarter
  split
  · next hboundary => omega
  · omega

theorem Rounding.atLeast_decade_of (h : Binary64.InNormalForm s e) (hs : s ≠ 0) :
    (Rounding.of s e).atLeast (Rounding.of s e).decade = true := by
  obtain ⟨hshort, hleast, hgreatest, -⟩ := h
  dsimp only [Binary64.leastNormal, Binary64.leastExponent, Binary64.greatestExponent] at *
  have hvalue : (Rounding.of s e).value = 4 * s * 2 ^ (e - 2).toNat := rfl
  have hne : (Rounding.of s e).value ≠ 0 := by
    have hpos : 0 < 4 * s * 2 ^ (e - 2).toNat := Nat.mul_pos (by omega) (Nat.two_pow_pos _)
    rw [hvalue]
    omega
  have hlower : 2 + (e - 2).toNat ≤ Nat.log2 (Rounding.of s e).value := by
    rw [Nat.le_log2 hne, hvalue, Nat.pow_add]
    exact Nat.mul_le_mul_right _ (by omega)
  have hupper : Nat.log2 (Rounding.of s e).value < 55 + (e - 2).toNat := by
    rw [Nat.log2_lt hne, hvalue, Nat.pow_add]
    exact Nat.mul_lt_mul_of_pos_right (by omega) (Nat.two_pow_pos _)
  exact Rounding.atLeast_decade (d := (2 - e).toNat) hne rfl (by omega) (by omega)

/-- The grid with sixteen digits behind the first is finer than the interval. -/
theorem Rounding.step_lt_of (h : Binary64.InNormalForm s e) (hs : s ≠ 0) :
    (Rounding.of s e).step ((Rounding.of s e).decade - 16) <
      ((Rounding.of s e).high - (Rounding.of s e).low) *
        refinement ((Rounding.of s e).decade - 16) := by
  have hstep := Rounding.step_mul_le (Rounding.atLeast_decade_of h hs)
  have hwide := Nat.mul_lt_mul_of_pos_right (Rounding.value_lt_of h)
    (refinement_pos ((Rounding.of s e).decade - 16))
  rw [Nat.mul_right_comm] at hwide
  exact Nat.lt_of_mul_lt_mul_right (Nat.lt_of_le_of_lt hstep hwide)

/-- **A shortest decimal is found, and it is not zero.** -/
theorem shortest_ne_zero (h : Binary64.InNormalForm s e) (hs : s ≠ 0) : (shortest s e).1 ≠ 0 := by
  have hencloses := @Rounding.encloses_of s e hs
  have hdecade := Rounding.atLeast_decade_of h hs
  dsimp only [shortest]
  cases hfound : (List.range 17).findSome? fun (k : Nat) =>
      ((Rounding.of s e).pointOn? ((Rounding.of s e).decade - k)).map
        fun n => (n, (Rounding.of s e).decade - k) with
  | none =>
    obtain ⟨n, hn⟩ := Rounding.exists_pointOn? hencloses (Rounding.step_lt_of h hs)
    have hlast := List.findSome?_eq_none_iff.mp hfound 16 (by decide)
    rw [Option.map_eq_none_iff] at hlast
    exact absurd (hn.symm.trans hlast) (by simp)
  | some found =>
    obtain ⟨k, -, hk⟩ := List.exists_of_findSome?_eq_some hfound
    obtain ⟨n, hn, rfl⟩ := Option.map_eq_some_iff.mp hk
    have hle := Rounding.floorOn_le_of_pointOn? hn
    have hpos := Rounding.floorOn_pos hencloses
      (Rounding.atLeast_of_le (show (Rounding.of s e).decade - k ≤ _ by omega) hdecade)
    rw [Option.getD_some]
    dsimp only
    omega

end

end ConnectRpc.Number
