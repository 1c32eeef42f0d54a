import ConnectRpc.Stub.View
import Mathlib.Data.List.Nodup
import Mathlib.Data.List.Perm.Subperm

/-!
# Claiming names

Names are claimed one after the other. Each is its base name with the fewest underscores after it
that keep it from the names taken before (`FewestUnderscores`), and is itself taken from then on
(`ClaimedInTurn`). From this it follows that claimed names are pairwise distinct and new, and that
base names which are distinct and free are claimed as they are.

The second half says which names get claimed in the end, without following the order of the claims.
A base name that finds its place taken moves on by one underscore, so what matters is how many come
by a place (`demand`): those that are that name, and those that came by the place before and did not
get it. A free name is claimed exactly when someone comes by (`mem_claimAll_iff`).
-/

namespace ConnectRpc.Stub

/-! ## Underscores at the end -/

@[simp]
theorem toList_underscored (name : String) (n : Nat) :
    (underscored name n).toList = name.toList ++ List.replicate n '_' := by
  simp [underscored]

@[simp]
theorem underscored_zero (name : String) : underscored name 0 = name := by
  simp [underscored]

theorem underscored_underscored (name : String) (m n : Nat) :
    underscored (underscored name m) n = underscored name (m + n) := by
  rw [← String.toList_inj]
  simp only [toList_underscored, List.append_assoc, List.replicate_append_replicate]

theorem underscored_inj {name : String} {m n : Nat} :
    underscored name m = underscored name n ↔ m = n := by
  refine ⟨fun h => ?_, fun h => h ▸ rfl⟩
  simpa using congrArg (fun s => s.toList.length) h

/-- The name ends in an underscore. -/
def endsInUnderscore (name : String) : Bool := name.toList.getLast? == some '_'

theorem endsInUnderscore_underscored (name : String) (n : Nat) :
    endsInUnderscore (underscored name (n + 1)) = true := by
  simp [endsInUnderscore, List.getLast?_append, List.getLast?_replicate]

theorem count_cons_underscored (rest : List String) (root : String) (m n : Nat) :
    (underscored root m :: rest).count (underscored root n) =
      rest.count (underscored root n) + if m = n then 1 else 0 := by
  rw [List.count_cons]
  simp only [beq_iff_eq, underscored_inj]

/-- What becomes `root` with underscores when underscores are added is `root` with fewer of them. -/
theorem exists_of_underscored_eq {name root : String} {n i : Nat}
    (hroot : endsInUnderscore root = false) (h : underscored name n = underscored root i) :
    ∃ j, name = underscored root j ∧ j + n = i := by
  have hchars := congrArg String.toList h
  rcases Nat.le_total n i with hle | hle
  · obtain ⟨j, rfl⟩ := Nat.exists_eq_add_of_le' hle
    rw [← underscored_underscored, toList_underscored, toList_underscored _ n] at hchars
    exact ⟨j, String.toList_inj.mp (List.append_cancel_right hchars), rfl⟩
  · obtain ⟨j, rfl⟩ := Nat.exists_eq_add_of_le' hle
    rw [← underscored_underscored, toList_underscored, toList_underscored _ i] at hchars
    have hname : underscored name j = root :=
      String.toList_inj.mp (List.append_cancel_right hchars)
    cases j with
    | zero => exact ⟨0, by rw [← hname]; simp, by simp⟩
    | succ j =>
      rw [← hname, endsInUnderscore_underscored] at hroot
      cases hroot

/-! ## One claim -/

/-- `final` is `name` with the fewest underscores after it that keep it from what is taken. -/
def FewestUnderscores (taken : List String) (name final : String) : Prop :=
  ∃ n, final = underscored name n ∧ final ∉ taken ∧ ∀ m < n, underscored name m ∈ taken

/-- There are more candidates than taken names. -/
theorem exists_underscored_not_mem (taken : List String) (name : String) :
    ∃ n ∈ List.range (taken.length + 1), underscored name n ∉ taken := by
  by_contra h
  push Not at h
  have hsub : (List.range (taken.length + 1)).map (underscored name) ⊆ taken := by
    intro s hs
    obtain ⟨n, hn, rfl⟩ := List.mem_map.mp hs
    exact h n hn
  have hnodup : ((List.range (taken.length + 1)).map (underscored name)).Nodup :=
    List.nodup_range.map fun m n => underscored_inj.mp
  have hle := (hnodup.subperm hsub).length_le
  rw [List.length_map, List.length_range] at hle
  omega

theorem claim_fewest (taken : List String) (name : String) :
    FewestUnderscores taken name (claim taken name) := by
  obtain ⟨k, hk, hfree⟩ := exists_underscored_not_mem taken name
  have hsome :
      ((List.range (taken.length + 1)).find? fun n => underscored name n ∉ taken).isSome := by
    rw [List.find?_isSome]
    exact ⟨k, hk, by simpa using hfree⟩
  obtain ⟨n, hn⟩ := Option.isSome_iff_exists.mp hsome
  have hclaim : claim taken name = underscored name n := by
    rw [claim, List.find?_map]
    simp only [Function.comp_def, hn, Option.map_some, Option.getD_some]
  obtain ⟨hnot, -, hall⟩ := List.find?_range_eq_some.mp hn
  refine ⟨n, hclaim, ?_, fun m hm => ?_⟩
  · rw [hclaim]
    simpa using hnot
  · simpa using hall m hm

/-! ## Claims in turn -/

/-- The names are claimed from the left, each avoiding what is taken and those before it. -/
inductive ClaimedInTurn : (taken names finals : List String) → Prop where
  | nil {taken : List String} : ClaimedInTurn taken [] []
  | cons {taken names finals : List String} {name final : String}
      (first : FewestUnderscores taken name final)
      (rest : ClaimedInTurn (final :: taken) names finals) :
      ClaimedInTurn taken (name :: names) (final :: finals)

theorem claimAll_claimedInTurn (taken names : List String) :
    ClaimedInTurn taken names (claimAll taken names) := by
  induction names generalizing taken with
  | nil => exact .nil
  | cons name rest ih => exact .cons (claim_fewest taken name) (ih _)

namespace ClaimedInTurn

variable {taken names finals : List String}

theorem append {names' finals' : List String} (h : ClaimedInTurn taken names finals)
    (h' : ClaimedInTurn (finals.reverse ++ taken) names' finals') :
    ClaimedInTurn taken (names ++ names') (finals ++ finals') := by
  induction h with
  | nil => exact h'
  | cons first rest ih =>
    refine .cons first (ih ?_)
    simpa using h'

theorem length_eq (h : ClaimedInTurn taken names finals) : finals.length = names.length := by
  induction h with
  | nil => rfl
  | cons first rest ih => simp [ih]

theorem not_mem_taken (h : ClaimedInTurn taken names finals) : ∀ s ∈ finals, s ∉ taken := by
  induction h with
  | nil => simp
  | cons first rest ih =>
    obtain ⟨n, -, hfree, -⟩ := first
    intro s hs
    rcases List.mem_cons.mp hs with rfl | hs
    · exact hfree
    · exact fun hmem => ih s hs (List.mem_cons_of_mem _ hmem)

/-- Claimed names are pairwise distinct. -/
theorem nodup (h : ClaimedInTurn taken names finals) : finals.Nodup := by
  induction h with
  | nil => exact List.nodup_nil
  | cons first rest ih =>
    refine List.nodup_cons.mpr ⟨fun hmem => ?_, ih⟩
    exact rest.not_mem_taken _ hmem List.mem_cons_self

/-- Each name gets underscores and nothing else. -/
theorem forall₂_underscored (h : ClaimedInTurn taken names finals) :
    List.Forall₂ (fun name final => ∃ n, final = underscored name n) names finals := by
  induction h with
  | nil => exact .nil
  | cons first rest ih =>
    obtain ⟨n, hfinal, -, -⟩ := first
    exact .cons ⟨n, hfinal⟩ ih

theorem exists_underscored (h : ClaimedInTurn taken names finals) :
    ∀ s ∈ finals, ∃ name ∈ names, ∃ n, s = underscored name n := by
  induction h with
  | nil => simp
  | cons first rest ih =>
    obtain ⟨n, hfinal, -, -⟩ := first
    intro s hs
    rcases List.mem_cons.mp hs with rfl | hs
    · exact ⟨_, List.mem_cons_self, n, hfinal⟩
    · obtain ⟨name, hname, hn⟩ := ih s hs
      exact ⟨name, List.mem_cons_of_mem _ hname, hn⟩

/-- Names that are distinct and free are claimed as they are. -/
theorem eq_self (h : ClaimedInTurn taken names finals) (hnames : names.Nodup)
    (hfree : ∀ name ∈ names, name ∉ taken) : finals = names := by
  induction h with
  | nil => rfl
  | @cons taken names finals name final first rest ih =>
    obtain ⟨n, hfinal, -, hleast⟩ := first
    obtain ⟨hnot, hrest⟩ := List.nodup_cons.mp hnames
    have hn : n = 0 := by
      by_contra hne
      have htaken := hleast 0 (Nat.pos_of_ne_zero hne)
      rw [underscored_zero] at htaken
      exact hfree name List.mem_cons_self htaken
    rw [hn, underscored_zero] at hfinal
    subst hfinal
    rw [ih hrest fun s hs hmem => ?_]
    rcases List.mem_cons.mp hmem with rfl | hmem
    · exact hnot hs
    · exact hfree s (List.mem_cons_of_mem _ hs) hmem

end ClaimedInTurn

/-! ## Which names are claimed in the end -/

/-- How many of the names come by `root` with `n` underscores: those that are that name, and those
that come by the place before it and do not get that one. -/
def demand (taken names : List String) (root : String) : Nat → Nat
  | 0 => names.count root
  | n + 1 =>
    names.count (underscored root (n + 1)) +
      if underscored root n ∈ taken then demand taken names root n
      else demand taken names root n - 1

theorem demand_nil (taken : List String) (root : String) (n : Nat) :
    demand taken [] root n = 0 := by
  induction n with
  | zero => rfl
  | succ n ih => simp [demand, ih]

/-- A name with another root comes by none of the places. -/
theorem demand_cons_of_ne {taken rest : List String} {name root final : String}
    (hname : ∀ i, underscored root i ≠ name) (hfinal : ∀ i, underscored root i ≠ final) (n : Nat) :
    demand taken (name :: rest) root n = demand (final :: taken) rest root n := by
  induction n with
  | zero =>
    have hne := hname 0
    rw [underscored_zero] at hne
    rw [demand, demand, List.count_cons_of_ne hne.symm]
  | succ n ih =>
    rw [demand, demand, List.count_cons_of_ne (hname _).symm, ih]
    simp only [List.mem_cons, hfinal n, false_or]

/-- A name comes by all places from its own to the one that it gets. -/
theorem demand_cons {taken rest : List String} {root : String} {first last : Nat}
    (hle : first ≤ last) (hfree : underscored root last ∉ taken)
    (htaken : ∀ i, first ≤ i → i < last → underscored root i ∈ taken) (n : Nat) :
    demand taken (underscored root first :: rest) root n =
      demand (underscored root last :: taken) rest root n +
        if first ≤ n ∧ n ≤ last then 1 else 0 := by
  induction n with
  | zero =>
    have hcount := count_cons_underscored rest root first 0
    rw [underscored_zero] at hcount
    rw [demand, demand, hcount]
    simp
  | succ n ih =>
    have hmem : underscored root n ∈ underscored root last :: taken ↔
        n = last ∨ underscored root n ∈ taken := by
      rw [List.mem_cons, underscored_inj]
    rw [demand, demand, count_cons_underscored, ih]
    simp only [hmem]
    by_cases hn : n = last
    -- The name gets this place, where it would otherwise be the one that is subtracted.
    · subst hn
      simp only [hfree, hle, true_or, if_true, if_false]
      grind
    · simp only [hn, false_or]
      have hbetween := htaken n
      by_cases hplace : underscored root n ∈ taken
      · simp only [hplace, if_true]
        grind
      · simp only [hplace, if_false]
        grind

/-- A free name is claimed exactly when some name comes by its place. -/
theorem mem_claimAll_iff {taken names : List String} {root : String} {n : Nat}
    (hroot : endsInUnderscore root = false) (hfree : underscored root n ∉ taken) :
    underscored root n ∈ claimAll taken names ↔ 0 < demand taken names root n := by
  induction names generalizing taken with
  | nil => simp [claimAll, demand_nil]
  | cons name rest ih =>
    obtain ⟨k, hfinal, hnot, hleast⟩ := claim_fewest taken name
    rw [claimAll, List.mem_cons]
    by_cases hname : ∃ i, name = underscored root i
    · obtain ⟨first, rfl⟩ := hname
      rw [underscored_underscored] at hfinal
      have htaken : ∀ i, first ≤ i → i < first + k → underscored root i ∈ taken := by
        intro i hi hi'
        obtain ⟨m, rfl⟩ := Nat.exists_eq_add_of_le hi
        have hm := hleast m (by omega)
        rwa [underscored_underscored] at hm
      rw [hfinal] at hnot ⊢
      rw [demand_cons (Nat.le_add_right first k) hnot htaken, underscored_inj]
      by_cases hn : n = first + k
      · simp [hn]
      · have hfree' : underscored root n ∉ underscored root (first + k) :: taken := by
          rw [List.mem_cons, underscored_inj]
          exact fun h => h.elim hn hfree
        have hout : ¬ (first ≤ n ∧ n ≤ first + k) := fun h =>
          hfree (htaken n h.1 (by omega))
        rw [ih hfree', if_neg hout]
        simp [hn]
    · have hne : ∀ i, underscored root i ≠ claim taken name := by
        intro i h
        rw [hfinal] at h
        obtain ⟨j, hj, -⟩ := exists_of_underscored_eq hroot h.symm
        exact hname ⟨j, hj⟩
      have hfree' : underscored root n ∉ claim taken name :: taken := by
        rw [List.mem_cons]
        exact fun h => h.elim (hne n) hfree
      rw [ih hfree', demand_cons_of_ne (fun i h => hname ⟨i, h.symm⟩) hne]
      simp [hne n]

end ConnectRpc.Stub
