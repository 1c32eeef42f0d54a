/-!
# Character classes as ranges of code points

A Unicode property is data of a standard. Here a class of characters is the list of the ranges of
its code points, both ends included, in increasing order; the modules beside this one hold one such
list each.

* `Ranges.has`: membership of a character.
* `has_iff`: a character is in the class exactly when some range holds its code point.
* `within`: a class whose ranges all lie in ranges of another is part of it (`has_of_within`).
* `apart`: two classes without a common range have no common character (`not_has_of_apart`).
-/

namespace ConnectRpc.Text

/-- Ranges of code points, both ends included. -/
abbrev Ranges := List (Nat × Nat)

/-- Some range holds the character's code point. -/
def Ranges.has (ranges : Ranges) (c : Char) : Bool :=
  ranges.any fun range => range.1 ≤ c.toNat && c.toNat ≤ range.2

theorem Ranges.has_iff (ranges : Ranges) (c : Char) :
    ranges.has c = true ↔ ∃ range ∈ ranges, range.1 ≤ c.toNat ∧ c.toNat ≤ range.2 := by
  simp [Ranges.has]

/-- The first range lies in the second. -/
def liesIn (range other : Nat × Nat) : Bool := other.1 ≤ range.1 && range.2 ≤ other.2

/-- Every range of the first class lies in one of the second: those of the second in turn take off
the leading ones of the first that lie in them. -/
def Ranges.within (first : Ranges) : Ranges → Bool
  | [] => first.isEmpty
  | other :: more => Ranges.within (first.dropWhile (liesIn · other)) more

theorem Ranges.exists_of_within {first second : Ranges} (h : first.within second = true)
    {range : Nat × Nat} (hrange : range ∈ first) : ∃ other ∈ second, liesIn range other = true := by
  induction second generalizing first with
  | nil =>
    rw [within, List.isEmpty_iff] at h
    simp [h] at hrange
  | cons other more ih =>
    by_cases hrest : range ∈ first.dropWhile (liesIn · other)
    · obtain ⟨found, hfound, hin⟩ := ih h hrest
      exact ⟨found, List.mem_cons_of_mem _ hfound, hin⟩
    · rw [← List.takeWhile_append_dropWhile (p := (liesIn · other)) (l := first),
        List.mem_append, or_iff_left hrest] at hrange
      exact ⟨other, List.mem_cons_self, List.all_eq_true.mp List.all_takeWhile range hrange⟩

theorem Ranges.has_of_within {first second : Ranges} (h : first.within second = true) {c : Char}
    (hc : first.has c = true) : second.has c = true := by
  obtain ⟨range, hrange, hlow, hhigh⟩ := (first.has_iff c).mp hc
  obtain ⟨other, hother, hin⟩ := exists_of_within h hrange
  simp only [liesIn, Bool.and_eq_true, decide_eq_true_eq] at hin
  exact (second.has_iff c).mpr ⟨other, hother, by omega, by omega⟩

/-- No code point is in a range of both classes. -/
def Ranges.apart (first second : Ranges) : Bool :=
  first.all fun range => second.all fun other => other.2 < range.1 || range.2 < other.1

theorem Ranges.not_has_of_apart {first second : Ranges} (h : first.apart second = true) {c : Char}
    (hc : second.has c = true) : first.has c = false := by
  rw [← Bool.not_eq_true]
  intro hfirst
  obtain ⟨range, hrange, hlow, hhigh⟩ := (first.has_iff c).mp hfirst
  obtain ⟨other, hother, hlow', hhigh'⟩ := (second.has_iff c).mp hc
  have hapart := List.all_eq_true.mp (List.all_eq_true.mp h range hrange) other hother
  simp only [Bool.or_eq_true, decide_eq_true_eq] at hapart
  omega

end ConnectRpc.Text
