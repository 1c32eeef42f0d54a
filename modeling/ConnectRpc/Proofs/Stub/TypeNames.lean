import ConnectRpc.Stub.Naming

/-!
# Names of types and classes

The name of a message's shape is its type made a module name, and so consists of word characters
only (`isWordChar_of_mem_typeName`); it is never a name that a unit imports. The name of a class is
made of its service's name as it stands, with the first letter in capital form, and nothing is kept
from it: two services may give one name, and the services `Connect` and `connect` give the name of
the class that all others are derived from (`className_mem_importedNames_iff`).
-/

namespace ConnectRpc.Stub

open Text

/-! ## Word characters -/

theorem isWordChar_underscore : isWordChar '_' = true := by decide

theorem isWordChar_of_mem_wordsOnly {cs : List Char} {c : Char} (h : c ∈ wordsOnly cs) :
    isWordChar c = true := by
  obtain ⟨d, -, hd⟩ := List.mem_map.mp h
  split at hd
  · next hword => rwa [← hd]
  · rw [← hd]
    exact isWordChar_underscore

theorem isWordChar_of_mem_guardFirst {cs : List Char} (h : ∀ c ∈ cs, isWordChar c = true) :
    ∀ c ∈ guardFirst cs, isWordChar c = true := by
  unfold guardFirst
  split
  · simpa using isWordChar_underscore
  · split
    · exact List.forall_mem_cons.mpr ⟨isWordChar_underscore, h⟩
    · exact h

theorem guardFirst_ne_nil (cs : List Char) : guardFirst cs ≠ [] := by
  unfold guardFirst
  split
  · simp
  · split <;> simp

/-- The characters of a module name, before it is escaped. -/
def cleanChars (name : String) : List Char := guardFirst (wordsOnly name.toList)

theorem toList_moduleName (name : String) :
    (moduleName name).toList = cleanChars name ∨
      (moduleName name).toList = cleanChars name ++ ['_'] := by
  unfold moduleName cleanChars
  dsimp only
  split
  · exact .inr (by simp)
  · exact .inl (by simp)

theorem typeName_eq (name : String) :
    typeName name = moduleName name ∨ typeName name = moduleName name ++ "_" := by
  unfold typeName
  dsimp only
  split
  · exact .inr rfl
  · exact .inl rfl

theorem isWordChar_of_mem_moduleName {name : String} : ∀ c ∈ (moduleName name).toList,
    isWordChar c = true := by
  have hclean : ∀ c ∈ cleanChars name, isWordChar c = true :=
    isWordChar_of_mem_guardFirst fun _ => isWordChar_of_mem_wordsOnly
  rcases toList_moduleName name with h | h
  · rwa [h]
  · rw [h, List.forall_mem_append]
    exact ⟨hclean, by simpa using isWordChar_underscore⟩

theorem isWordChar_of_mem_typeName {name : String} : ∀ c ∈ (typeName name).toList,
    isWordChar c = true := by
  rcases typeName_eq name with h | h
  · rw [h]
    exact isWordChar_of_mem_moduleName
  · rw [h, String.toList_append, List.forall_mem_append]
    exact ⟨isWordChar_of_mem_moduleName, by simpa using isWordChar_underscore⟩

theorem toList_moduleName_ne_nil (name : String) : (moduleName name).toList ≠ [] := by
  rcases toList_moduleName name with h | h
  · rw [h]
    exact guardFirst_ne_nil _
  · simp [h]

theorem toList_typeName_ne_nil (name : String) : (typeName name).toList ≠ [] := by
  rcases typeName_eq name with h | h
  · rw [h]
    exact toList_moduleName_ne_nil name
  · simp [h]

/-! ## Names that are taken -/

theorem moduleName_not_mem_keywords (name : String) : moduleName name ∉ keywords := by
  have hescaped : ∀ word ∈ keywords, word ++ "_" ∉ keywords := by decide
  unfold moduleName
  dsimp only
  split
  · next hkeyword => exact hescaped _ hkeyword
  · next hfree => exact hfree

theorem typeName_not_mem_keywords (name : String) : typeName name ∉ keywords := by
  have hescaped : ∀ word ∈ importedNames, word ++ "_" ∉ keywords := by decide
  unfold typeName
  dsimp only
  split
  · next himported => exact hescaped _ himported
  · exact moduleName_not_mem_keywords name

theorem typeName_not_mem_importedNames (name : String) : typeName name ∉ importedNames := by
  have hescaped : ∀ word ∈ importedNames, word ++ "_" ∉ importedNames := by decide
  unfold typeName
  dsimp only
  split
  · next himported => exact hescaped _ himported
  · next hfree => exact hfree

/-- Only a name that already was a module name becomes one without underscores. -/
theorem moduleName_eq_self_of_not_mem {name : String} (h : '_' ∉ (moduleName name).toList) :
    moduleName name = name := by
  have hclean : (moduleName name).toList = cleanChars name := by
    refine (toList_moduleName name).resolve_right fun heq => ?_
    simp [heq] at h
  have hwords : cleanChars name = wordsOnly name.toList := by
    rw [hclean] at h
    unfold cleanChars guardFirst at h ⊢
    split at h
    · simp at h
    · split at h
      · simp at h
      · next hdigit => rw [if_neg hdigit]
  rw [hclean, hwords] at h
  have hself : wordsOnly name.toList = name.toList := by
    refine (List.map_congr_left fun c hc => ?_).trans (List.map_id _)
    split
    · rfl
    · next hnot =>
      have hunderscore : '_' ∈ wordsOnly name.toList := List.mem_map.mpr ⟨c, hc, if_neg hnot⟩
      exact absurd hunderscore h
  exact String.toList_inj.mp (hclean.trans (hwords.trans hself))

/-- Only a message that is itself called so has a type name without underscores. -/
theorem eq_of_typeName_eq {name word : String} (hword : '_' ∉ word.toList)
    (h : typeName name = word) : name = word := by
  have hmodule : moduleName name = word := by
    refine ((typeName_eq name).resolve_right fun heq => ?_).symm.trans h
    rw [← h, heq] at hword
    simp at hword
  rw [← hmodule] at hword
  exact (moduleName_eq_self_of_not_mem hword).symm.trans hmodule

/-! ## Names of classes -/

theorem toNat_eq_of_ofNat_eq {n : Nat} {c : Char} (h : Char.ofNat n = c) (hc : c.toNat ≠ 0) :
    c.toNat = n := by
  subst h
  by_cases hvalid : n.isValidChar
  · rw [Char.ofNat, dif_pos hvalid]
    rfl
  · rw [Char.ofNat, dif_neg hvalid] at hc
    exact absurd rfl hc

/-- No letter but the two of that sound has the capital `C`. -/
theorem eq_of_head?_capital {c : Char} (h : (capital c).head? = some 'C') : c = 'c' ∨ c = 'C' := by
  have hlong : ∀ entry ∈ longCapitals, (entry.2.map Char.ofNat).head? ≠ some 'C' := by
    decide +kernel
  -- The only code point that a run shifts to that of the capital is that of the small letter.
  have hruns : ∀ run ∈ capitalRuns, run.covers (67 - run.shift).toNat = true →
      67 - run.shift = 99 := by decide +kernel
  rcases capital_cases c with
    ⟨entry, hentry, -, hcapital⟩ | ⟨run, hrun, hcovers, hcapital⟩ | hcapital
  · rw [hcapital] at h
    exact absurd h (hlong entry hentry)
  · rw [hcapital, List.head?_cons, Option.some_inj] at h
    have hshift := toNat_eq_of_ofNat_eq h (by decide)
    have hback : (67 - run.shift).toNat = c.toNat := by
      have hcode : 'C'.toNat = 67 := rfl
      omega
    have hsmall := hruns run hrun (hback ▸ hcovers)
    refine .inl ((Char.toNat_inj).mp ?_)
    rw [← hback, hsmall]
    rfl
  · rw [hcapital, List.head?_cons, Option.some_inj] at h
    exact .inr h

theorem capitalise_eq_connect_iff {s : String} :
    capitalise s = "Connect" ↔ s = "Connect" ∨ s = "connect" := by
  constructor
  · intro h
    have hchars : capitaliseChars s.toList = "Connect".toList := by
      rw [← h, capitalise, String.toList_ofList]
    cases hs : s.toList with
    | nil =>
      rw [hs] at hchars
      cases hchars
    | cons c rest =>
      rw [hs, capitaliseChars] at hchars
      have hhead : (capital c).head? = some 'C' := by
        cases hcapital : capital c with
        | nil => exact absurd hcapital (capital_ne_nil c)
        | cons d more =>
          rw [hcapital] at hchars
          exact congrArg some (List.head_eq_of_cons_eq hchars)
      have hrest : ∀ d, capital d = ['C'] → capital d ++ rest = "Connect".toList →
          rest = "onnect".toList := fun d hd heq => by
        rw [hd] at heq
        exact (List.cons_eq_cons.mp heq).2
      rcases eq_of_head?_capital hhead with rfl | rfl
      · right
        rw [← String.toList_inj, hs, hrest 'c' (by decide) hchars]
        rfl
      · left
        rw [← String.toList_inj, hs, hrest 'C' (by decide) hchars]
        rfl
  · rintro (rfl | rfl) <;> decide

theorem className_inj {s t : String} : className s = className t ↔ capitalise s = capitalise t := by
  rw [className, className, String.append_left_inj]

/-- The name of a class, behind whatever name of a service. -/
theorem isSuffixOf_className (s : String) :
    "Client".toList.isSuffixOf (className s).toList = true := by
  rw [List.isSuffixOf_iff_suffix, className, String.toList_append]
  exact List.suffix_append _ _

theorem className_mem_importedNames_iff {s : String} :
    className s ∈ importedNames ↔ s = "Connect" ∨ s = "connect" := by
  have hall : ∀ name ∈ importedNames, "Client".toList.isSuffixOf name.toList = true →
      name = "Connect" ++ "Client" := by decide
  rw [← capitalise_eq_connect_iff]
  constructor
  · intro h
    exact (String.append_left_inj _).mp (hall _ h (isSuffixOf_className s))
  · intro h
    rw [className, h]
    decide

end ConnectRpc.Stub
