import ConnectRpc.Value.Basic
import Mathlib.Tactic.Common

/-!
# Values and what they hold

Lists, tuples and dictionaries hold values, which are smaller than they are. So a statement about
all values may assume itself of the held ones (`held_induction`). What a value contains is itself,
what it holds, what that holds, and so on (`Contains`). The keys of a dictionary are not counted
among what it holds (`keys`).

A new key goes to the end of a dictionary (`putEntry_new`).
-/

namespace ConnectRpc.Value

/-! ## What values hold -/

/-- The values that are written inside a value: items and the values of members. -/
def held : Value → List Value
  | .list items => items
  | .tuple items => items
  | .dict entries => entries.map Prod.snd
  | _ => []

/-- The keys of a dictionary. -/
def keys : Value → List Value
  | .dict entries => entries.map Prod.fst
  | _ => []

theorem sizeOf_held_lt {v w : Value} (h : w ∈ v.held) : sizeOf w < sizeOf v := by
  cases v with
  | list items =>
    have hlt : sizeOf w < sizeOf items := List.sizeOf_lt_of_mem h
    rw [list.sizeOf_spec]
    omega
  | tuple items =>
    have hlt : sizeOf w < sizeOf items := List.sizeOf_lt_of_mem h
    rw [tuple.sizeOf_spec]
    omega
  | dict entries =>
    obtain ⟨⟨key, value⟩, hentry, rfl⟩ := List.mem_map.mp h
    have hlt := List.sizeOf_lt_of_mem hentry
    rw [Prod.mk.sizeOf_spec] at hlt
    rw [dict.sizeOf_spec]
    dsimp only
    omega
  | null => cases h
  | bool b => cases h
  | int i => cases h
  | float x => cases h
  | text s => cases h
  | unpaired t => cases h
  | bytes b => cases h
  | set items => cases h
  | enclosing level => cases h

/-- Induction along what values hold. -/
@[elab_as_elim]
theorem held_induction {motive : Value → Prop}
    (h : ∀ v, (∀ w ∈ v.held, motive w) → motive v) (v : Value) : motive v := by
  induction hn : sizeOf v using Nat.strongRecOn generalizing v with
  | ind n ih => exact h v fun w hw => ih _ (hn ▸ sizeOf_held_lt hw) w rfl

/-- The value, and those inside it. -/
inductive Contains : Value → Value → Prop
  | self (v : Value) : Contains v v
  | held {v u w : Value} (hheld : u ∈ v.held) (h : Contains u w) : Contains v w

theorem contains_iff {v w : Value} : v.Contains w ↔ w = v ∨ ∃ u ∈ v.held, u.Contains w := by
  constructor
  · intro h
    cases h with
    | self => exact .inl rfl
    | held hheld h => exact .inr ⟨_, hheld, h⟩
  · rintro (rfl | ⟨u, hheld, h⟩)
    · exact .self _
    · exact .held hheld h

/-! ## New keys -/

/-- A key that is not there yet goes to the end. -/
theorem putEntry_new {key : String} {value : Value} {entries : List (Value × Value)}
    (h : ∀ entry ∈ entries, ∃ other, entry.1 = .text other ∧ other ≠ key) :
    putEntry (.text key) value entries = entries ++ [(.text key, value)] := by
  induction entries with
  | nil => rfl
  | cons entry rest ih =>
    obtain ⟨hfirst, hrest⟩ := List.forall_mem_cons.mp h
    obtain ⟨other, hother, hne⟩ := hfirst
    have hkey : sameKey entry.1 (.text key) = false := by
      rw [hother]
      simpa [sameKey] using hne
    rw [putEntry, hkey, if_neg (by simp), ih hrest, List.cons_append]

end ConnectRpc.Value
