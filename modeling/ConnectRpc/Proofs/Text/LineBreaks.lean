import ConnectRpc.Proofs.Text.Quoted
import ConnectRpc.Text.Breaks
import ConnectRpc.Text.Pieces
import Mathlib.Algebra.BigOperators.Group.List.Basic
import Mathlib.Algebra.GroupWithZero.Nat

/-!
# Line breaks in texts

A text whose lines end in a line feed each falls into just these lines exactly if none of them holds
a character that breaks lines (`lines_ended_iff`). Where lines are put together from parts, the
breaks in them are counted part by part (`occurs`); a quoted text has none (`occurs_quote`).
-/

namespace ConnectRpc.Text

/-- The text has no character that breaks lines. -/
def OneLine (s : String) : Prop := ∀ c ∈ s.toList, lineBreakRanges.has c = false

instance (s : String) : Decidable (OneLine s) :=
  List.decidableBAll (fun c => lineBreakRanges.has c = false) s.toList

/-- The characters of lines with a line feed after each. -/
def endedLines (texts : List String) : List Char := texts.flatMap (·.toList ++ ['\n'])

/-! ## Falling into lines -/

theorem linesFrom_append {front : List Char} (h : ∀ c ∈ front, lineBreakRanges.has c = false)
    (current rest : List Char) :
    linesFrom current (front ++ rest) = linesFrom (front.reverse ++ current) rest := by
  induction front generalizing current with
  | nil => rfl
  | cons c more ih =>
    obtain ⟨hc, hmore⟩ := List.forall_mem_cons.mp h
    have hreturn : c ≠ '\r' := by
      rintro rfl
      cases hc
    rw [List.cons_append, linesFrom, if_neg (by simp [hc]), ih hmore, List.reverse_cons,
      List.append_assoc, List.singleton_append]
    exact fun _ heq _ => hreturn heq

theorem linesFrom_feed (current rest : List Char) :
    linesFrom current ('\n' :: rest) = current.reverse :: linesFrom [] rest := by
  rw [linesFrom, if_pos (by decide)]
  simp

theorem lines_endedLines {texts : List String} (h : ∀ text ∈ texts, OneLine text) :
    lines (String.ofList (endedLines texts)) = texts := by
  rw [lines, String.toList_ofList]
  induction texts with
  | nil => rfl
  | cons text more ih =>
    obtain ⟨htext, hmore⟩ := List.forall_mem_cons.mp h
    have hfirst : linesFrom [] (endedLines (text :: more)) =
        text.toList :: linesFrom [] (endedLines more) := by
      rw [endedLines, List.flatMap_cons, List.append_assoc, linesFrom_append htext,
        List.singleton_append, linesFrom_feed]
      simp [endedLines]
    rw [hfirst, List.map_cons, ih hmore, String.ofList_toList]

/-- No line of a text holds a character that breaks lines. -/
theorem not_break_of_mem_linesFrom {current cs : List Char}
    (h : ∀ c ∈ current, lineBreakRanges.has c = false) :
    ∀ line ∈ linesFrom current cs, ∀ c ∈ line, lineBreakRanges.has c = false := by
  fun_induction linesFrom current cs with
  | case1 current hempty => simp
  | case2 current hfull => simpa using h
  | case3 current rest ih => simpa using ⟨h, ih (by simp)⟩
  | case4 current c rest _ hbreak ih => simpa using ⟨h, ih (by simp)⟩
  | case5 current c rest _ hplain ih =>
    exact ih (List.forall_mem_cons.mpr ⟨by simpa using hplain, h⟩)

theorem oneLine_of_mem_lines {s line : String} (h : line ∈ lines s) : OneLine line := by
  obtain ⟨cs, hcs, rfl⟩ := List.mem_map.mp h
  intro c hc
  rw [String.toList_ofList] at hc
  exact not_break_of_mem_linesFrom (by simp) cs hcs c hc

/-- Lines with a line feed after each are what their text falls into, exactly if none of them holds
a character that breaks lines. -/
theorem lines_ended_iff {texts : List String} :
    lines (String.ofList (endedLines texts)) = texts ↔ ∀ text ∈ texts, OneLine text :=
  ⟨fun h _ htext => oneLine_of_mem_lines (h.symm ▸ htext), lines_endedLines⟩

/-! ## Counting -/

/-- How often a character occurs in a text. -/
def occurs (c : Char) (s : String) : Nat := s.toList.count c

/-- How often a character occurs in texts together. -/
def occursIn (c : Char) (texts : List String) : Nat := (texts.map (occurs c)).sum

section

variable (c : Char)

theorem occurs_append (s t : String) : occurs c (s ++ t) = occurs c s + occurs c t := by
  rw [occurs, String.toList_append, List.count_append]
  rfl

theorem occursIn_nil : occursIn c [] = 0 := rfl

theorem occursIn_cons (s : String) (texts : List String) :
    occursIn c (s :: texts) = occurs c s + occursIn c texts := by
  rw [occursIn, List.map_cons, List.sum_cons]
  rfl

theorem occursIn_append (texts texts' : List String) :
    occursIn c (texts ++ texts') = occursIn c texts + occursIn c texts' := by
  rw [occursIn, List.map_append, List.sum_append]
  rfl

theorem occursIn_replicate (n : Nat) (s : String) :
    occursIn c (List.replicate n s) = n * occurs c s := by
  simp [occursIn]

theorem occursIn_map {α : Type} (f : α → String) (xs : List α) :
    occursIn c (xs.map f) = (xs.map fun x => occurs c (f x)).sum := by
  rw [occursIn, List.map_map]
  rfl

theorem occursIn_flatMap {α : Type} (f : α → List String) (xs : List α) :
    occursIn c (xs.flatMap f) = (xs.map fun x => occursIn c (f x)).sum := by
  induction xs with
  | nil => rfl
  | cons x rest ih => rw [List.flatMap_cons, occursIn_append, ih, List.map_cons, List.sum_cons]

theorem occursIn_eq_zero_iff {texts : List String} :
    occursIn c texts = 0 ↔ ∀ text ∈ texts, occurs c text = 0 := by
  induction texts with
  | nil => simp [occursIn_nil]
  | cons text rest ih => rw [occursIn_cons, Nat.add_eq_zero_iff, ih, List.forall_mem_cons]

end

theorem oneLine_iff_occurs {s : String} :
    OneLine s ↔ ∀ c, lineBreakRanges.has c = true → occurs c s = 0 := by
  constructor
  · intro h c hc
    refine List.count_eq_zero.mpr fun hmem => ?_
    rw [h c hmem] at hc
    cases hc
  · intro h c hmem
    by_contra hc
    exact List.count_eq_zero.mp (h c (by simpa using hc)) hmem

theorem forall_oneLine_iff_occursIn {texts : List String} :
    (∀ text ∈ texts, OneLine text) ↔
      ∀ c, lineBreakRanges.has c = true → occursIn c texts = 0 := by
  simp only [oneLine_iff_occurs, occursIn_eq_zero_iff]
  exact ⟨fun h c hc text ht => h text ht c hc, fun h text ht c hc => h c hc text ht⟩

/-! ## Quoted texts -/

theorem not_break_of_mem_hexPadded {width n : Nat} :
    ∀ c ∈ hexPadded width n, lineBreakRanges.has c = false := by
  have hdigits : ∀ digit < 16, lineBreakRanges.has (Nat.digitChar digit) = false := by decide
  intro c hc
  obtain ⟨digit, hdigit, rfl⟩ := exists_of_mem_hexPadded hc
  exact hdigits digit hdigit

theorem not_break_of_isPrintable {c : Char} (h : isPrintable c = true) :
    lineBreakRanges.has c = false :=
  Ranges.not_has_of_apart (by decide +kernel) h

theorem QuotedChar.not_break {q c : Char} {text : List Char} (h : QuotedChar q c text)
    (hq : lineBreakRanges.has q = false) : ∀ d ∈ text, lineBreakRanges.has d = false := by
  have hbackslash : lineBreakRanges.has '\\' = false := by decide
  have hletters : ∀ entry ∈ quotedLetters, lineBreakRanges.has entry.1 = false := by decide
  have hmarks : ∀ entry ∈ codeMarks, lineBreakRanges.has entry.1 = false := by decide
  cases h with
  | self h =>
    rcases h with rfl | rfl
    · simpa using ⟨hbackslash, hq⟩
    · simpa using hbackslash
  | letter h => simpa using ⟨hbackslash, hletters _ h⟩
  | plain hprintable => simpa using not_break_of_isPrintable hprintable
  | code h =>
    simpa using ⟨hbackslash, hmarks _ h, not_break_of_mem_hexPadded⟩

/-- A quoted text is on one line. -/
theorem oneLine_quote (s : String) : OneLine (quote s) := by
  have hquotes : ∀ cs, lineBreakRanges.has (quoteFor cs) = false := by
    intro cs
    rcases quoteFor_cases cs with h | h <;> rw [h] <;> decide
  rw [OneLine, quote, String.toList_ofList, quoteChars]
  simp only [List.forall_mem_append, List.forall_mem_cons, List.forall_mem_flatMap,
    List.not_mem_nil, false_imp_iff, implies_true, and_true]
  exact ⟨⟨hquotes _, fun c _ => (quotedChar_quoteChar _ c).not_break (hquotes _)⟩, hquotes _⟩

end ConnectRpc.Text
