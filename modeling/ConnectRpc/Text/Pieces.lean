/-!
# Cutting texts at a separator

* `pieces`: the stretches between the separators; there is always one piece more than there are
  separators, so the empty text has one empty piece.
* `cutAt`: the stretch before the first separator and, if there is one, all that follows it.
* `length_pieces`: the number of pieces.
* `joinPieces_pieces`: putting the separators back gives the text.
* `pieces_map`: replacing the characters one by one goes through cutting.
* `pieces_joinPieces`: cutting what was joined gives the pieces, if the separator is in none of
  them.
* `cutAt_append_cons`: cutting before and after the first separator.
-/

namespace ConnectRpc.Text

section

variable {α : Type} [DecidableEq α]

/-- The stretches between the occurrences of `sep`. -/
def pieces (sep : α) : List α → List (List α)
  | [] => [[]]
  | c :: rest =>
    if c = sep then [] :: pieces sep rest
    else
      match pieces sep rest with
      | [] => [[c]]
      | piece :: more => (c :: piece) :: more

/-- The stretches with `sep` between each two. -/
def joinPieces (sep : α) : List (List α) → List α
  | [] => []
  | [piece] => piece
  | piece :: more => piece ++ sep :: joinPieces sep more

omit [DecidableEq α] in
theorem joinPieces_cons_cons (sep : α) (piece second : List α) (more : List (List α)) :
    joinPieces sep (piece :: second :: more) =
      piece ++ sep :: joinPieces sep (second :: more) := rfl

theorem pieces_ne_nil (sep : α) (cs : List α) : pieces sep cs ≠ [] := by
  cases cs with
  | nil => simp [pieces]
  | cons c rest =>
    simp only [pieces]
    split
    · simp
    · split <;> simp

theorem length_pieces (sep : α) (cs : List α) :
    (pieces sep cs).length = cs.count sep + 1 := by
  induction cs with
  | nil => rfl
  | cons c rest ih =>
    by_cases hc : c = sep
    · rw [pieces, if_pos hc, List.length_cons, ih, hc, List.count_cons_self]
    · rw [List.count_cons_of_ne hc, ← ih, pieces, if_neg hc]
      cases hp : pieces sep rest with
      | nil => exact absurd hp (pieces_ne_nil sep rest)
      | cons piece more => rfl

theorem joinPieces_pieces (sep : α) (cs : List α) :
    joinPieces sep (pieces sep cs) = cs := by
  induction cs with
  | nil => rfl
  | cons c rest ih =>
    simp only [pieces]
    split
    · next h =>
      cases hp : pieces sep rest with
      | nil => exact absurd hp (pieces_ne_nil sep rest)
      | cons piece more => rw [hp] at ih; simp [joinPieces, ih, h]
    · split
      · next hp => exact absurd hp (pieces_ne_nil sep rest)
      · next piece more hp =>
        rw [hp] at ih
        cases more with
        | nil => simpa [joinPieces] using ih
        | cons second more => simpa [joinPieces] using ih

theorem pieces_of_not_mem {sep : α} {piece : List α} (h : sep ∉ piece) :
    pieces sep piece = [piece] := by
  induction piece with
  | nil => rfl
  | cons c rest ih =>
    have hc : c ≠ sep := fun heq => h (heq ▸ List.mem_cons_self)
    rw [pieces, if_neg hc, ih fun hmem => h (List.mem_cons_of_mem _ hmem)]

theorem pieces_append_cons {sep : α} {piece : List α} (h : sep ∉ piece) (rest : List α) :
    pieces sep (piece ++ sep :: rest) = piece :: pieces sep rest := by
  induction piece with
  | nil => rw [List.nil_append, pieces, if_pos rfl]
  | cons c front ih =>
    have hc : c ≠ sep := fun heq => h (heq ▸ List.mem_cons_self)
    rw [List.cons_append, pieces, if_neg hc, ih fun hmem => h (List.mem_cons_of_mem _ hmem)]

theorem pieces_map {β : Type} [DecidableEq β] {f : α → β} (hf : ∀ a b, f a = f b → a = b)
    (sep : α) (cs : List α) : pieces (f sep) (cs.map f) = (pieces sep cs).map (List.map f) := by
  induction cs with
  | nil => rfl
  | cons c rest ih =>
    rw [List.map_cons, pieces, pieces, ih]
    by_cases hc : c = sep
    · rw [if_pos hc, if_pos (congrArg f hc)]
      rfl
    · rw [if_neg hc, if_neg fun h => hc (hf _ _ h)]
      cases pieces sep rest with
      | nil => rfl
      | cons piece more => rfl

theorem pieces_joinPieces {sep : α} {ps : List (List α)} (hne : ps ≠ [])
    (h : ∀ piece ∈ ps, sep ∉ piece) : pieces sep (joinPieces sep ps) = ps := by
  induction ps with
  | nil => exact absurd rfl hne
  | cons piece more ih =>
    have hpiece := h piece List.mem_cons_self
    cases more with
    | nil => exact pieces_of_not_mem hpiece
    | cons second more =>
      have hmore := ih (by simp) fun p hp => h p (List.mem_cons_of_mem _ hp)
      rw [joinPieces_cons_cons, pieces_append_cons hpiece, hmore]

end

/-- The stretch before the first `sep`, and what follows that separator if there is one. -/
def cutAt (sep : Char) : List Char → List Char × Option (List Char)
  | [] => ([], none)
  | c :: rest =>
    if c = sep then ([], some rest) else ((c :: (cutAt sep rest).1), (cutAt sep rest).2)

theorem cutAt_of_not_mem {sep : Char} {cs : List Char} (h : sep ∉ cs) :
    cutAt sep cs = (cs, none) := by
  induction cs with
  | nil => rfl
  | cons c rest ih =>
    have hc : c ≠ sep := fun heq => h (heq ▸ List.mem_cons_self)
    rw [cutAt, if_neg hc, ih fun hmem => h (List.mem_cons_of_mem _ hmem)]

theorem cutAt_append_cons {sep : Char} {cs : List Char} (h : sep ∉ cs) (rest : List Char) :
    cutAt sep (cs ++ sep :: rest) = (cs, some rest) := by
  induction cs with
  | nil => rw [List.nil_append, cutAt, if_pos rfl]
  | cons c more ih =>
    have hc : c ≠ sep := fun heq => h (heq ▸ List.mem_cons_self)
    rw [List.cons_append, cutAt, if_neg hc, ih fun hmem => h (List.mem_cons_of_mem _ hmem)]

/-- The texts between the occurrences of `sep`. -/
def splitText (sep : Char) (s : String) : List String :=
  (pieces sep s.toList).map String.ofList

/-- The texts with `sep` between each two. -/
def joinText (sep : String) : List String → String
  | [] => ""
  | [s] => s
  | s :: more => s ++ sep ++ joinText sep more

theorem joinText_cons {sep s : String} {more : List String} (h : more ≠ []) :
    joinText sep (s :: more) = s ++ sep ++ joinText sep more := by
  cases more with
  | nil => exact absurd rfl h
  | cons second more => rfl

/-- What the last text ends in stands at the end. -/
theorem joinText_concat_append (sep : String) (front : List String) (s ending : String) :
    joinText sep (front ++ [s ++ ending]) = joinText sep (front ++ [s]) ++ ending := by
  induction front with
  | nil => rfl
  | cons first more ih =>
    rw [List.cons_append, List.cons_append, joinText_cons (by simp), joinText_cons (by simp), ih]
    simp only [String.append_assoc]

theorem toList_joinText {sep : String} {c : Char} (hsep : sep.toList = [c]) (texts : List String) :
    (joinText sep texts).toList = joinPieces c (texts.map String.toList) := by
  induction texts with
  | nil => rfl
  | cons s more ih =>
    cases more with
    | nil => rfl
    | cons second more =>
      rw [joinText_cons (by simp), String.toList_append, String.toList_append, ih, hsep,
        List.append_assoc]
      rfl

/-- Cutting joined texts gives the texts, if the separator is in none of them. -/
theorem splitText_joinText {sep : String} {c : Char} (hsep : sep.toList = [c])
    {texts : List String} (hne : texts ≠ []) (h : ∀ s ∈ texts, c ∉ s.toList) :
    splitText c (joinText sep texts) = texts := by
  have hpieces : ∀ piece ∈ texts.map String.toList, c ∉ piece := by
    intro piece hpiece
    obtain ⟨s, hs, rfl⟩ := List.mem_map.mp hpiece
    exact h s hs
  rw [splitText, toList_joinText hsep, pieces_joinPieces (by simpa using hne) hpieces,
    List.map_map]
  simp [Function.comp_def]

theorem splitText_of_not_mem {sep : Char} {s : String} (h : sep ∉ s.toList) :
    splitText sep s = [s] := by
  rw [splitText, pieces_of_not_mem h, List.map_singleton, String.ofList_toList]

/-- A text is determined by the texts between its separators. -/
theorem splitText_inj (sep : Char) {s t : String} :
    splitText sep s = splitText sep t ↔ s = t := by
  refine ⟨fun h => ?_, fun h => h ▸ rfl⟩
  have hpieces : pieces sep s.toList = pieces sep t.toList := by
    have hlists := congrArg (List.map String.toList) h
    simpa [splitText, Function.comp_def] using hlists
  have hchars := congrArg (joinPieces sep) hpieces
  rw [joinPieces_pieces, joinPieces_pieces] at hchars
  exact String.toList_inj.mp hchars

end ConnectRpc.Text
