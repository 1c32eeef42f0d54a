import ConnectRpc.Proofs.Stub.Claiming

/-!
# Identifiers

The name of a stub or a parameter is the snake form of what was declared, with an underscore after
it if it is a keyword or reserved. No such name is left, and none of them ends in an underscore, so
that one underscore is enough (`identifier_not_mem_avoided`).

Neither step keeps names apart. Two declared names give one identifier exactly when their snake
forms are the same, or when one of these is a name to avoid and the other is what it is escaped to
(`identifier_eq_identifier_iff`).
-/

namespace ConnectRpc.Stub

theorem identifier_ne_empty {name : String} (h : name ≠ "") : identifier name ≠ "" := by
  have hsnake : snakeCase name ≠ "" := by
    rw [Ne, ← String.toList_inj] at h
    rw [Ne, snakeCase, String.ofList_eq_empty_iff]
    cases hname : name.toList with
    | nil => exact absurd hname h
    | cons c rest => simp [snakeChars_cons]
  unfold identifier
  dsimp only
  split
  · simp
  · exact hsnake

/-- The names that an identifier is kept from. -/
def avoided : List String := keywords ++ reservedNames

theorem endsInUnderscore_of_mem_avoided {name : String} (h : name ∈ avoided) :
    endsInUnderscore name = false := by
  have hall : ∀ name ∈ avoided, endsInUnderscore name = false := by decide +kernel
  exact hall name h

theorem underscored_succ_not_mem_avoided (name : String) (n : Nat) :
    underscored name (n + 1) ∉ avoided := by
  intro h
  have hends := endsInUnderscore_of_mem_avoided h
  rw [endsInUnderscore_underscored] at hends
  cases hends

theorem underscored_one (name : String) : underscored name 1 = name ++ "_" := rfl

/-! ## One identifier -/

section

variable {name : String}

theorem identifier_of_mem (h : snakeCase name ∈ avoided) :
    identifier name = underscored (snakeCase name) 1 := by
  rw [avoided, List.mem_append] at h
  simp only [identifier, h, if_true, underscored_one]

theorem identifier_of_not_mem (h : snakeCase name ∉ avoided) :
    identifier name = snakeCase name := by
  rw [avoided, List.mem_append] at h
  simp only [identifier, h, if_false]

end

theorem identifier_not_mem_avoided (name : String) : identifier name ∉ avoided := by
  by_cases h : snakeCase name ∈ avoided
  · rw [identifier_of_mem h]
    exact underscored_succ_not_mem_avoided _ 0
  · rwa [identifier_of_not_mem h]

/-- What a declared name has to be for its identifier to be a given one. -/
theorem identifier_eq_iff {name s : String} (hs : s ∉ avoided)
    (hescaped : ∀ word ∈ avoided, underscored word 1 ≠ s) :
    identifier name = s ↔ snakeCase name = s := by
  by_cases h : snakeCase name ∈ avoided
  · rw [identifier_of_mem h]
    exact ⟨fun heq => absurd heq (hescaped _ h), fun heq => absurd (heq ▸ h) hs⟩
  · rw [identifier_of_not_mem h]

/-! ## Two identifiers -/

/-- Two declared names give one identifier exactly when their snake forms are the same, or one of
these is escaped to the other. -/
theorem identifier_eq_identifier_iff {a b : String} :
    identifier a = identifier b ↔
      snakeCase a = snakeCase b ∨
        (snakeCase a ∈ avoided ∧ snakeCase b = underscored (snakeCase a) 1) ∨
        (snakeCase b ∈ avoided ∧ snakeCase a = underscored (snakeCase b) 1) := by
  have hfree : ∀ name, underscored name 1 ∉ avoided := fun name =>
    underscored_succ_not_mem_avoided name 0
  by_cases ha : snakeCase a ∈ avoided
  · by_cases hb : snakeCase b ∈ avoided
    · have hcancel : underscored (snakeCase a) 1 = underscored (snakeCase b) 1 ↔
          snakeCase a = snakeCase b := by
        rw [underscored_one, underscored_one, String.append_left_inj]
      rw [identifier_of_mem ha, identifier_of_mem hb, hcancel]
      refine ⟨.inl, fun h => ?_⟩
      rcases h with h | ⟨-, h⟩ | ⟨-, h⟩
      · exact h
      · exact absurd (h ▸ hb) (hfree _)
      · exact absurd (h ▸ ha) (hfree _)
    · rw [identifier_of_mem ha, identifier_of_not_mem hb]
      refine ⟨fun h => .inr (.inl ⟨ha, h.symm⟩), fun h => ?_⟩
      rcases h with h | ⟨-, h⟩ | ⟨h, -⟩
      · exact absurd (h ▸ ha) hb
      · exact h.symm
      · exact absurd h hb
  · by_cases hb : snakeCase b ∈ avoided
    · rw [identifier_of_not_mem ha, identifier_of_mem hb]
      refine ⟨fun h => .inr (.inr ⟨hb, h⟩), fun h => ?_⟩
      rcases h with h | ⟨h, -⟩ | ⟨-, h⟩
      · exact absurd (h ▸ hb) ha
      · exact absurd h ha
      · exact h
    · rw [identifier_of_not_mem ha, identifier_of_not_mem hb]
      simp [ha, hb]

end ConnectRpc.Stub
