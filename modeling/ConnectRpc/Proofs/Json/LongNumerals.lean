import ConnectRpc.Json.Reader
import Mathlib.Data.List.Basic

/-!
# Long numerals in JSON texts

A text of the JSON grammar is refused for one reason: a whole number of too many digits. The reader
meets the faults of a text from the left, so this one counts exactly if everything before the number
has been read and a value is due (`read_eq_numeralTooLong_iff`).
-/

namespace ConnectRpc.Json

namespace Reader

/-- Tokens are refused at the first that makes no step. -/
theorem exists_of_run_eq_error {r : Reader} {tokens : List Token} {e : ReadError}
    (h : r.run tokens = .error e) : ∃ before t after next, tokens = before ++ t :: after ∧
      r.run before = .ok next ∧ next.step t = .error e := by
  induction tokens generalizing r with
  | nil => cases h
  | cons t tokens ih =>
    rw [run_cons] at h
    cases hstep : r.step t with
    | error e' =>
      rw [hstep] at h
      cases h
      exact ⟨[], t, tokens, r, rfl, run_nil r, hstep⟩
    | ok next =>
      rw [hstep] at h
      obtain ⟨before, t', after, last, rfl, hbefore, hlast⟩ := ih h
      refine ⟨t :: before, t', after, last, rfl, ?_, hlast⟩
      rw [run_cons, hstep]
      exact hbefore

/-- A step finds a number too long only where a value is due. -/
theorem exists_of_step_eq_numeralTooLong {r : Reader} {t : Token} {n : Nat}
    (h : r.step t = .error (.numeralTooLong n)) :
    ∃ stack mayClose negative digits, r = .value stack mayClose ∧ t = .int negative digits ∧
      Number.longestNumeral < digits.length ∧ n = digits.length := by
  cases r with
  | value stack mayClose =>
    change beginValue stack mayClose t = _ at h
    cases t
    case int negative digits =>
      simp only [beginValue] at h
      split at h
      next htooMany =>
        cases h
        exact ⟨stack, mayClose, negative, digits, rfl, rfl, htooMany, rfl⟩
      · cases h
    case closeList =>
      simp only [beginValue] at h
      split at h <;> cases h
    all_goals cases h
  | key stack entries mayClose => cases t <;> cases mayClose <;> cases h
  | colon stack entries key => cases t <;> cases h
  | after stack v =>
    change afterValue stack v t = _ at h
    unfold afterValue at h
    split at h <;> cases h

end Reader

/-- A whole number of too many digits stands where a value is due. -/
inductive LongNumeral (cs : List Char) : Nat → Prop where
  | mk {before after : List Token} {negative mayClose : Bool} {digits : List Char}
      {stack : List Frame}
      (tokens : Token.list cs = before ++ .int negative digits :: after)
      (due : Reader.start.run before = .ok (.value stack mayClose))
      (tooMany : Number.longestNumeral < digits.length) : LongNumeral cs digits.length

/-- A text is refused for a long number exactly if there is one in it where a value is due. -/
theorem read_eq_numeralTooLong_iff {cs : List Char} {n : Nat} :
    read cs = .error (.numeralTooLong n) ↔ LongNumeral cs n := by
  constructor
  · intro h
    cases hrun : Reader.start.run (Token.list cs) with
    | ok r =>
      have hresult : r.result? = .error (.numeralTooLong n) := by
        rw [read, hrun] at h
        exact h
      unfold Reader.result? at hresult
      split at hresult <;> cases hresult
    | error e =>
      rw [read, hrun] at h
      cases h
      obtain ⟨before, t, after, next, htokens, hbefore, hstep⟩ :=
        Reader.exists_of_run_eq_error hrun
      obtain ⟨stack, mayClose, negative, digits, rfl, rfl, htooMany, rfl⟩ :=
        Reader.exists_of_step_eq_numeralTooLong hstep
      exact .mk htokens hbefore htooMany
  · rintro ⟨tokens, due, tooMany⟩
    rw [read, tokens, Reader.run_append, due]
    simp only [Except.bind, Reader.run_cons, Reader.step, Reader.beginValue, if_pos tooMany]

end ConnectRpc.Json
