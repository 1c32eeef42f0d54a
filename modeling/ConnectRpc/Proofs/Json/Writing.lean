import ConnectRpc.Json.Token
import ConnectRpc.Json.Writer
import ConnectRpc.Proofs.Success
import ConnectRpc.Proofs.Value
import ConnectRpc.Text.Pieces

/-!
# What written values are put together of

A character of a string is written in one of three ways (`WrittenChar`).

The text of a list or of an object is that of its items or members, joined with commas, and it is
written exactly if each of them is (`writeItems_ok_iff`, `writeEntries_ok_iff`). So what holds of
every written value is shown by induction along what values hold (`Value.held_induction`), without
looking into the writer's recursion.

A value that has a JSON text is written unless half a character stands somewhere in it
(`write_halved_iff`).
-/

namespace ConnectRpc.Json

/-! ## Characters of strings -/

/-- The letters that stand for a character behind a backslash. -/
def escapeLetters : List Char := ['"', '\\', '/', 'b', 'f', 'n', 'r', 't']

/-- How a character may stand in a written string. -/
inductive WrittenChar (c : Char) : List Char → Prop
  | plain (hprintable : 0x20 ≤ c.toNat) (hquote : c ≠ '"') (hbackslash : c ≠ '\\') :
      WrittenChar c [c]
  | letter {e : Char} (hletter : e ∈ escapeLetters) (hvalue : escaped? e = some c) :
      WrittenChar c ['\\', e]
  | codePoint (hcontrol : c.toNat < 0x20) :
      WrittenChar c ('\\' :: 'u' :: Text.hexPadded 4 c.toNat)

theorem writtenChar_stringChar (c : Char) : WrittenChar c (stringChar c) := by
  unfold stringChar
  split_ifs with hquote hbackslash hn hr ht hf hb hcontrol
  · subst hquote
    exact .letter (by decide) rfl
  · subst hbackslash
    exact .letter (by decide) rfl
  · subst hn
    exact .letter (by decide) rfl
  · subst hr
    exact .letter (by decide) rfl
  · subst ht
    exact .letter (by decide) rfl
  · subst hf
    exact .letter (by decide) rfl
  · subst hb
    exact .letter (by decide) rfl
  · exact .codePoint hcontrol
  · exact .plain (Nat.le_of_not_lt hcontrol) hquote hbackslash

/-! ## Texts with commas -/

/-- What writes nothing for nothing, and puts a comma between a text and those after it, joins the
texts with commas. -/
theorem joined_ok_iff {α ε : Type} {one : α → Except ε (List Char)}
    {all : List α → Except ε (List Char)} (hnil : all [] = .ok []) (hone : ∀ a, all [a] = one a)
    (hmore : ∀ a b rest, all (a :: b :: rest) = do
      let first ← one a
      let more ← all (b :: rest)
      return first ++ ',' :: more)
    {as : List α} {cs : List Char} :
    all as = .ok cs ↔
      ∃ texts, List.Forall₂ (fun a text => one a = .ok text) as texts ∧
        cs = Text.joinPieces ',' texts := by
  induction as generalizing cs with
  | nil =>
    simp only [hnil, Except.ok.injEq, List.forall₂_nil_left_iff, exists_eq_left, Text.joinPieces]
    exact eq_comm
  | cons a rest ih =>
    cases rest with
    | nil =>
      rw [hone]
      constructor
      · exact fun h => ⟨[cs], .cons h .nil, rfl⟩
      · rintro ⟨_, _ | ⟨htext, hnone⟩, rfl⟩
        obtain rfl := List.forall₂_nil_left_iff.mp hnone
        exact htext
    | cons b rest =>
      simp only [hmore, bind_ok_iff, pure_ok_iff, ih]
      constructor
      · rintro ⟨first, hfirst, _, ⟨texts, htexts, rfl⟩, rfl⟩
        refine ⟨first :: texts, .cons hfirst htexts, ?_⟩
        cases htexts with
        | cons _ _ => rw [Text.joinPieces_cons_cons]
      · rintro ⟨_, _ | ⟨hfirst, htexts⟩, rfl⟩
        refine ⟨_, hfirst, _, ⟨_, htexts, rfl⟩, ?_⟩
        cases htexts with
        | cons _ _ => rw [Text.joinPieces_cons_cons]

/-- The items of a list are written exactly if each of them is. -/
theorem writeItems_ok_iff {items : List Value} {cs : List Char} :
    writeItems items = .ok cs ↔
      ∃ texts, List.Forall₂ (fun v text => writeChars v = .ok text) items texts ∧
        cs = Text.joinPieces ',' texts := by
  refine joined_ok_iff ?_ (fun v => ?_) fun v w rest => ?_
  · rw [writeItems]
  · rw [writeItems]
  · rw [writeItems]
    simp

/-- One member of an object. -/
def writeEntry (entry : Value × Value) : Except EncodeError (List Char) := do
  let name ← keyText entry.1
  let value ← writeChars entry.2
  return stringText name ++ ':' :: value

theorem writeEntry_ok_iff {entry : Value × Value} {cs : List Char} :
    writeEntry entry = .ok cs ↔
      ∃ name value, keyText entry.1 = .ok name ∧ writeChars entry.2 = .ok value ∧
        cs = stringText name ++ ':' :: value := by
  simp only [writeEntry, bind_ok_iff, pure_ok_iff]
  constructor
  · rintro ⟨name, hname, value, hvalue, rfl⟩
    exact ⟨name, value, hname, hvalue, rfl⟩
  · rintro ⟨name, value, hname, hvalue, rfl⟩
    exact ⟨name, hname, value, hvalue, rfl⟩

/-- The members of an object are written exactly if each of them is. -/
theorem writeEntries_ok_iff {entries : List (Value × Value)} {cs : List Char} :
    writeEntries entries = .ok cs ↔
      ∃ texts, List.Forall₂ (fun entry text => writeEntry entry = .ok text) entries texts ∧
        cs = Text.joinPieces ',' texts := by
  refine joined_ok_iff ?_ (fun entry => ?_) fun entry next rest => ?_
  · rw [writeEntries]
  · rw [writeEntries]
    rfl
  · rw [writeEntries]
    · simp only [writeEntry, bind_assoc, pure_bind]
    · simp

/-! ## Containers -/

theorem writeChars_list_ok_iff {items : List Value} {cs : List Char} :
    writeChars (.list items) = .ok cs ↔
      ∃ inner, writeItems items = .ok inner ∧ cs = '[' :: inner ++ [']'] := by
  rw [writeChars, bind_ok_iff]
  simp only [pure_ok_iff, @eq_comm _ _ cs]

theorem writeChars_tuple_ok_iff {items : List Value} {cs : List Char} :
    writeChars (.tuple items) = .ok cs ↔
      ∃ inner, writeItems items = .ok inner ∧ cs = '[' :: inner ++ [']'] := by
  rw [writeChars, bind_ok_iff]
  simp only [pure_ok_iff, @eq_comm _ _ cs]

theorem writeChars_dict_ok_iff {entries : List (Value × Value)} {cs : List Char} :
    writeChars (.dict entries) = .ok cs ↔
      ∃ inner, writeEntries entries = .ok inner ∧ cs = '\x7b' :: inner ++ ['\x7d'] := by
  rw [writeChars, bind_ok_iff]
  simp only [pure_ok_iff, @eq_comm _ _ cs]

/-! ## Halves of characters -/

theorem haveHalf_iff {vs : List Value} : haveHalf vs = true ↔ ∃ v ∈ vs, hasHalf v = true := by
  induction vs with
  | nil => simp [haveHalf]
  | cons v vs ih => simp [haveHalf, ih]

theorem entriesHaveHalf_iff {entries : List (Value × Value)} :
    entriesHaveHalf entries = true ↔
      (∃ key ∈ entries.map Prod.fst, isHalved key = true) ∨
        ∃ v ∈ entries.map Prod.snd, hasHalf v = true := by
  induction entries with
  | nil => simp [entriesHaveHalf]
  | cons entry rest ih =>
    simp only [entriesHaveHalf, Bool.or_eq_true, ih, List.map_cons, List.mem_cons,
      exists_eq_or_imp]
    exact or_or_or_comm

/-- The value is a text with half a character in it, or has such a key. -/
def IsHalvedHere (v : Value) : Prop :=
  isHalved v = true ∨ ∃ key ∈ v.keys, isHalved key = true

/-- Half a character stands in the value, or in one that it holds. -/
theorem hasHalf_iff_held {v : Value} :
    hasHalf v = true ↔ IsHalvedHere v ∨ ∃ u ∈ v.held, hasHalf u = true := by
  cases v with
  | list items => simp [hasHalf, IsHalvedHere, isHalved, Value.keys, Value.held, haveHalf_iff]
  | tuple items => simp [hasHalf, IsHalvedHere, isHalved, Value.keys, Value.held, haveHalf_iff]
  | dict entries => simp [hasHalf, IsHalvedHere, isHalved, Value.keys, Value.held,
      entriesHaveHalf_iff]
  | _ => simp [hasHalf, IsHalvedHere, Value.keys, Value.held]

/-- Half a character stands somewhere in the value, in a text or in a key. -/
theorem hasHalf_iff {v : Value} :
    hasHalf v = true ↔ ∃ w, v.Contains w ∧ IsHalvedHere w := by
  induction v using Value.held_induction with
  | h v ih =>
    rw [hasHalf_iff_held]
    constructor
    · rintro (hhere | ⟨u, hu, hhalf⟩)
      · exact ⟨v, .self v, hhere⟩
      · obtain ⟨w, hw, hhere⟩ := (ih u hu).mp hhalf
        exact ⟨w, .held hu hw, hhere⟩
    · rintro ⟨w, hw, hhere⟩
      cases hw with
      | self => exact .inl hhere
      | held hu hw => exact .inr ⟨_, hu, (ih _ hu).mpr ⟨w, hw, hhere⟩⟩

/-! ## Whole texts -/

theorem write_ok_iff {v : Value} {text : String} :
    write v = .ok text ↔
      ∃ cs, writeChars v = .ok cs ∧ hasHalf v = false ∧ text = String.ofList cs := by
  unfold write
  cases writeChars v with
  | error reason => simp
  | ok cs => cases hasHalf v <;> simp [eq_comm]

/-- A value that is not refused is not written exactly if half a character stands in it. -/
theorem write_halved_iff {v : Value} :
    write v = .error .halved ↔
      (∀ reason, write v ≠ .error (.refused reason)) ∧ ∃ w, v.Contains w ∧ IsHalvedHere w := by
  rw [← hasHalf_iff]
  unfold write
  cases writeChars v with
  | error reason => simp
  | ok cs => cases hasHalf v <;> simp

/-- In a value that has been written no half of a character stands. -/
theorem not_isHalvedHere_of_write_ok {v w : Value} {text : String} (h : write v = .ok text)
    (hw : v.Contains w) : ¬ IsHalvedHere w := by
  intro hhalved
  have herror : write v = .error .halved := write_halved_iff.mpr ⟨by simp [h], w, hw, hhalved⟩
  rw [h] at herror
  cases herror

end ConnectRpc.Json
