import ConnectRpc.Proofs.Json.Grammar
import ConnectRpc.Proofs.Json.Writing

/-!
# When the writer keeps to the grammar

The text of a value is a JSON text exactly if every number of the format binary64 that the value
contains is finite (`isDocument_iff`). Keys do not count: whatever a key is, its text stands in a
string.

That the others keep to the grammar is shown along what values hold (`derives_of_write`). For the
converse, the three words for numbers that are no reals are recognised by their letters. No text of
the grammar has a capital N or I outside its strings (`Derives.passes`), while a written value with
such a number has one (`passes_of_write`). Both are said of a text and whatever follows it, with the
place where reading on begins: outside strings, inside one, or behind a backslash (`Passes`).
-/

namespace ConnectRpc

open Number

namespace Value

/-- Some number in the value is no real. -/
def HasUnreal (v : Value) : Prop := ∃ x, v.Contains (.float x) ∧ x.isFinite = false

theorem hasUnreal_float_iff {x : Binary64} : (Value.float x).HasUnreal ↔ x.isFinite = false := by
  constructor
  · rintro ⟨y, hy, hunreal⟩
    rcases contains_iff.mp hy with hself | ⟨u, hheld, -⟩
    · cases hself
      exact hunreal
    · exact absurd hheld List.not_mem_nil
  · exact fun hunreal => ⟨x, .self _, hunreal⟩

theorem HasUnreal.of_held {v u : Value} (hheld : u ∈ v.held) (h : u.HasUnreal) : v.HasUnreal := by
  obtain ⟨x, hx, hunreal⟩ := h
  exact ⟨x, .held hheld hx, hunreal⟩

/-- In a value that is no such number itself, it is in one that is held. -/
theorem hasUnreal_iff_held {v : Value} (h : ∀ x, v = .float x → x.isFinite = true) :
    v.HasUnreal ↔ ∃ u ∈ v.held, u.HasUnreal := by
  constructor
  · rintro ⟨x, hx, hunreal⟩
    rcases contains_iff.mp hx with hself | ⟨u, hheld, hu⟩
    · exact absurd (h x hself.symm) (by simp [hunreal])
    · exact ⟨u, hheld, x, hu, hunreal⟩
  · rintro ⟨u, hheld, hu⟩
    exact .of_held hheld hu

end Value

namespace Json

/-! ## Values of which the numbers are finite -/

/-- What holds of texts holds of them joined with commas. -/
theorem joinPieces_induction {one all : List Char → Prop} (last : ∀ cs, one cs → all cs)
    (more : ∀ cs rest, one cs → all rest → all (cs ++ ',' :: rest)) {texts : List (List Char)}
    (hne : texts ≠ []) (h : ∀ text ∈ texts, one text) : all (Text.joinPieces ',' texts) := by
  induction texts with
  | nil => exact absurd rfl hne
  | cons text texts ih =>
    obtain ⟨htext, htexts⟩ := List.forall_mem_cons.mp h
    cases texts with
    | nil => exact last text htext
    | cons second texts =>
      rw [Text.joinPieces_cons_cons]
      exact more _ _ htext (ih (List.cons_ne_nil _ _) htexts)

theorem areBlank_nil : AreBlank [] := List.forall_mem_nil _

theorem Derives.unpadded {cs : List Char} (h : Derives .value cs) : Derives .padded cs := by
  simpa only [List.nil_append, List.append_nil] using Derives.padded areBlank_nil h areBlank_nil

theorem derives_array {texts : List (List Char)} (h : ∀ text ∈ texts, Derives .value text) :
    Derives .value ('[' :: Text.joinPieces ',' texts ++ [']']) := by
  by_cases hne : texts = []
  · rw [hne]
    exact .emptyArray areBlank_nil
  · exact .array (joinPieces_induction (fun _ => .lastElement) (fun _ _ => .moreElements) hne
      fun text htext => (h text htext).unpadded)

theorem derives_object {texts : List (List Char)} (h : ∀ text ∈ texts, Derives .member text) :
    Derives .value ('\x7b' :: Text.joinPieces ',' texts ++ ['\x7d']) := by
  by_cases hne : texts = []
  · rw [hne]
    exact .emptyObject areBlank_nil
  · exact .object (joinPieces_induction (fun _ => .lastMember) (fun _ _ => .moreMembers) hne h)

/-- A value of which the numbers are finite is written as a value of the grammar. -/
theorem derives_of_write {v : Value} (hfinite : ¬ v.HasUnreal) {text : List Char}
    (h : writeChars v = .ok text) : Derives .value text := by
  induction v using Value.held_induction generalizing text with
  | h v ih =>
    have hheld : ∀ u ∈ v.held, ¬ u.HasUnreal := fun u hu hunreal => hfinite (.of_held hu hunreal)
    have harray : ∀ items inner, v.held = items → writeItems items = .ok inner →
        Derives .value ('[' :: inner ++ [']']) := by
      rintro items inner rfl hinner
      obtain ⟨texts, htexts, rfl⟩ := writeItems_ok_iff.mp hinner
      refine derives_array fun text htext => ?_
      obtain ⟨u, hu, hwrite⟩ := exists_of_mem_of_forall₂ htexts htext
      exact ih u hu (hheld u hu) hwrite
    cases v with
    | null =>
      rw [writeChars] at h
      cases h
      exact .null
    | bool b =>
      rw [writeChars] at h
      cases h
      exact .bool b
    | int i =>
      rw [writeChars, intChars] at h
      split at h
      · cases h
      · cases h
        exact .number (isNumber_intText i)
    | float x =>
      rw [writeChars] at h
      cases h
      exact .number (isNumber_floatText (by simpa [Value.hasUnreal_float_iff] using hfinite))
    | text s =>
      rw [writeChars] at h
      cases h
      exact .string (isString_stringText s.toList)
    | unpaired t =>
      rw [writeChars] at h
      cases h
      exact .string (isString_stringText t.mended)
    | bytes b => rw [writeChars] at h; cases h
    | set items => rw [writeChars] at h; cases h
    | enclosing level => rw [writeChars] at h; cases h
    | list items =>
      obtain ⟨inner, hinner, rfl⟩ := writeChars_list_ok_iff.mp h
      exact harray items inner rfl hinner
    | tuple items =>
      obtain ⟨inner, hinner, rfl⟩ := writeChars_tuple_ok_iff.mp h
      exact harray items inner rfl hinner
    | dict entries =>
      obtain ⟨inner, hinner, rfl⟩ := writeChars_dict_ok_iff.mp h
      obtain ⟨texts, htexts, rfl⟩ := writeEntries_ok_iff.mp hinner
      refine derives_object fun text htext => ?_
      obtain ⟨entry, hentry, hwrite⟩ := exists_of_mem_of_forall₂ htexts htext
      obtain ⟨name, value, -, hvalue, rfl⟩ := writeEntry_ok_iff.mp hwrite
      have hmem : entry.2 ∈ (Value.dict entries).held := List.mem_map_of_mem hentry
      have hmember := Derives.member areBlank_nil (isString_stringText name) areBlank_nil
        (ih entry.2 hmem (hheld _ hmem) hvalue).unpadded
      rwa [List.nil_append, List.append_nil] at hmember

/-! ## Letters outside strings -/

/-- Where in a text a character stands. -/
inductive Place where
  | bare
  | quoted
  /-- Behind a backslash. -/
  | escaped

/-- The place behind a character. -/
def Place.next : Place → Char → Place
  | .bare, c => if c = '"' then .quoted else .bare
  | .quoted, c => if c = '"' then .bare else if c = '\\' then .escaped else .quoted
  | .escaped, _ => .quoted

/-- Outside strings, the character is of no string and begins no word for a number. -/
def IsPlain (c : Char) : Prop := c ≠ '"' ∧ c ≠ 'N' ∧ c ≠ 'I'

instance (c : Char) : Decidable (IsPlain c) := inferInstanceAs (Decidable (_ ∧ _))

/-- Outside strings there is a letter that begins a word for a number. -/
def HasWord : Place → List Char → Prop
  | _, [] => False
  | p, c :: rest => (p = .bare ∧ (c = 'N' ∨ c = 'I')) ∨ HasWord (p.next c) rest

/-- The text leads from one place to another, and there is such a letter in it if `found`. -/
def Passes (p : Place) (text : List Char) (p' : Place) (found : Prop) : Prop :=
  ∀ rest, HasWord p (text ++ rest) ↔ found ∨ HasWord p' rest

section

variable {p p' p'' : Place} {text text' : List Char} {found found' : Prop} {c : Char}

theorem passes_nil : Passes p [] p False := fun rest => by rw [false_or]; rfl

theorem Passes.congr (h : Passes p text p' found) (hfound : found ↔ found') :
    Passes p text p' found' := fun rest => by rw [h rest, hfound]

theorem Passes.append (h : Passes p text p' found) (h' : Passes p' text' p'' found') :
    Passes p (text ++ text') p'' (found ∨ found') := by
  intro rest
  rw [List.append_assoc, h, h', or_assoc]

/-- A character that leads on and is no letter of a word. -/
theorem Passes.cons (hnext : p.next c = p') (hletter : p = .bare → c ≠ 'N' ∧ c ≠ 'I')
    (h : Passes p' text p'' found) : Passes p (c :: text) p'' found := by
  intro rest
  have hnone : ¬ (p = .bare ∧ (c = 'N' ∨ c = 'I')) := by
    rintro ⟨hp, rfl | rfl⟩
    · exact (hletter hp).1 rfl
    · exact (hletter hp).2 rfl
  rw [← h rest, ← hnext]
  exact or_iff_right hnone

theorem Passes.cons_plain (hc : IsPlain c) (h : Passes .bare text p found) :
    Passes .bare (c :: text) p found :=
  .cons (if_neg hc.1) (fun _ => hc.2) h

theorem passes_plain (h : ∀ c ∈ text, IsPlain c) : Passes .bare text .bare False := by
  induction text with
  | nil => exact passes_nil
  | cons c text ih =>
    obtain ⟨hc, htext⟩ := List.forall_mem_cons.mp h
    exact .cons_plain hc (ih htext)

/-- Behind a text without such a letter. -/
theorem Passes.silent_append (h : Passes p text p' False) (h' : Passes p' text' p'' found) :
    Passes p (text ++ text') p'' found :=
  (h.append h').congr (or_iff_right id)

/-- Between two brackets. -/
theorem Passes.bracketed {opening closing : Char} (hopening : IsPlain opening)
    (hclosing : IsPlain closing) (h : Passes .bare text .bare found) :
    Passes .bare (opening :: text ++ [closing]) .bare found :=
  .cons_plain hopening ((h.append (.cons_plain hclosing passes_nil)).congr (or_iff_left id))

end

/-! ## Letters of the grammar -/

theorem isPlain_of_isAsciiDigit {c : Char} (h : isAsciiDigit c = true) : IsPlain c :=
  of_isAsciiDigit h (by decide)

theorem isPlain_of_isBlank {c : Char} (h : isBlank c = true) : IsPlain c := by
  simp only [isBlank, Bool.or_eq_true, beq_iff_eq] at h
  rcases h with ((rfl | rfl) | rfl) | rfl <;> decide

theorem IsDigits.isPlain {cs : List Char} (h : IsDigits cs) : ∀ c ∈ cs, IsPlain c :=
  fun c hc => isPlain_of_isAsciiDigit (h.2 c hc)

theorem IsMagnitude.isPlain {cs : List Char} (h : IsMagnitude cs) : ∀ c ∈ cs, IsPlain c := by
  obtain ⟨hwhole, hfraction, hexponent⟩ := h
  refine List.forall_mem_append.mpr ⟨List.forall_mem_append.mpr ⟨?_, ?_⟩, ?_⟩
  · cases hwhole with
    | zero => exact List.forall_mem_singleton.mpr (by decide)
    | positive hfirst _ hrest =>
      exact List.forall_mem_cons.mpr ⟨isPlain_of_isAsciiDigit hfirst,
        fun c hc => isPlain_of_isAsciiDigit (hrest c hc)⟩
  · cases hfraction with
    | none => exact List.forall_mem_nil _
    | some hdigits => exact List.forall_mem_cons.mpr ⟨by decide, hdigits.isPlain⟩
  · cases hexponent with
    | none => exact List.forall_mem_nil _
    | some hletter hsign hdigits =>
      refine List.forall_mem_append.mpr ⟨List.forall_mem_cons.mpr ⟨?_, ?_⟩, hdigits.isPlain⟩
      · rcases hletter with rfl | rfl <;> decide
      · rcases hsign with rfl | rfl | rfl <;> simp [IsPlain]

theorem IsNumber.isPlain {cs : List Char} (h : IsNumber cs) : ∀ c ∈ cs, IsPlain c := by
  cases h with
  | unsigned h => exact h.isPlain
  | minus h => exact List.forall_mem_cons.mpr ⟨by decide, h.isPlain⟩

theorem ne_of_isHexDigit {c : Char} (h : IsHexDigit c) : c ≠ '"' ∧ c ≠ '\\' := by
  rcases h with h | h
  · exact @of_isAsciiDigit (fun c => c ≠ '"' ∧ c ≠ '\\') _ c h (by decide)
  · have hall : ['a', 'b', 'c', 'd', 'e', 'f', 'A', 'B', 'C', 'D', 'E', 'F'].all
        (fun d => d ≠ '"' ∧ d ≠ '\\') = true := by
      decide
    exact of_decide_eq_true (List.all_eq_true.mp hall c h)

/-- Inside a string, a character that neither ends it nor begins an escape. -/
theorem Passes.cons_quoted {c : Char} {text : List Char} {p : Place} {found : Prop}
    (hc : c ≠ '"' ∧ c ≠ '\\') (h : Passes .quoted text p found) :
    Passes .quoted (c :: text) p found :=
  .cons ((if_neg hc.1).trans (if_neg hc.2)) (by simp) h

/-- A backslash and what stands behind it. -/
theorem Passes.cons_escape {c : Char} {text : List Char} {p : Place} {found : Prop}
    (h : Passes .quoted text p found) : Passes .quoted ('\\' :: c :: text) p found := by
  have hescaped : Passes .escaped (c :: text) p found := .cons rfl (by simp) h
  exact .cons rfl (by simp) hescaped

theorem IsQuoted.passes {cs : List Char} (h : IsQuoted cs) : Passes .quoted cs .quoted False := by
  induction h with
  | nil => exact passes_nil
  | plain _ hquote hbackslash _ ih => exact .cons_quoted ⟨hquote, hbackslash⟩ ih
  | escape _ _ ih => exact .cons_escape ih
  | codePoint ha hb hc hd _ ih =>
    exact .cons_escape (.cons_quoted (ne_of_isHexDigit ha) (.cons_quoted (ne_of_isHexDigit hb)
      (.cons_quoted (ne_of_isHexDigit hc) (.cons_quoted (ne_of_isHexDigit hd) ih))))

theorem IsString.passes {cs : List Char} (h : IsString cs) : Passes .bare cs .bare False := by
  obtain ⟨h⟩ := h
  have hclose : Passes .quoted ['"'] .bare False := .cons rfl (by simp) passes_nil
  exact .cons rfl (fun _ => by decide) (h.passes.silent_append hclose)

theorem AreBlank.passes {cs : List Char} (h : AreBlank cs) : Passes .bare cs .bare False :=
  passes_plain fun c hc => isPlain_of_isBlank (h c hc)

/-- No text of the grammar has a letter of a word outside its strings, but for those of the grammar
itself. -/
theorem Derives.passes {part : Part} {cs : List Char} (h : Derives part cs) :
    Passes .bare cs .bare False := by
  induction h with
  | null => exact passes_plain (by simp [IsPlain])
  | bool b => cases b <;> exact passes_plain (by simp [IsPlain])
  | number h => exact passes_plain h.isPlain
  | string h => exact h.passes
  | emptyArray h => exact h.passes.bracketed (by decide) (by decide)
  | array _ ih => exact ih.bracketed (by decide) (by decide)
  | emptyObject h => exact h.passes.bracketed (by decide) (by decide)
  | object _ ih => exact ih.bracketed (by decide) (by decide)
  | padded hbefore _ hafter ih =>
    exact (hbefore.passes.silent_append ih).silent_append hafter.passes
  | lastElement _ ih => exact ih
  | moreElements _ _ ih ihrest => exact ih.silent_append (.cons_plain (by decide) ihrest)
  | member hbefore hname hafter _ ih =>
    exact ((hbefore.passes.silent_append hname.passes).silent_append hafter.passes).silent_append
      (.cons_plain (by decide) ih)
  | lastMember _ ih => exact ih
  | moreMembers _ _ ih ihrest => exact ih.silent_append (.cons_plain (by decide) ihrest)

/-! ## Letters of written values -/

/-- The word of a number that is no real begins, behind a minus sign perhaps, with such a letter. -/
theorem passes_floatText {x : Binary64} (h : x.isFinite = false) :
    Passes .bare (floatText x) .bare True := by
  intro rest
  simp only [true_or, iff_true]
  cases x with
  | nan => exact .inl ⟨rfl, .inl rfl⟩
  | infinite negative =>
    cases negative with
    | false => exact .inl ⟨rfl, .inr rfl⟩
    | true => exact .inr (.inl ⟨rfl, .inr rfl⟩)
  | finite negative s e normal => cases h

/-- Texts joined with commas have what one of them has. -/
theorem passes_joinPieces {α : Type} {found : α → Prop} {as : List α} {texts : List (List Char)}
    (h : List.Forall₂ (fun a text => Passes .bare text .bare (found a)) as texts) :
    Passes .bare (Text.joinPieces ',' texts) .bare (∃ a ∈ as, found a) := by
  induction h with
  | nil => exact passes_nil.congr (by simp)
  | @cons a text as texts hfirst hmore ih =>
    cases hmore with
    | nil => exact hfirst.congr (by simp)
    | cons hsecond hmore =>
      rw [Text.joinPieces_cons_cons]
      exact (hfirst.append (.cons_plain (by decide) ih)).congr (by simp)

/-- A written value has such a letter exactly if a number in it is no real. -/
theorem passes_of_write {v : Value} {text : List Char} (h : writeChars v = .ok text) :
    Passes .bare text .bare v.HasUnreal := by
  induction v using Value.held_induction generalizing text with
  | h v ih =>
    have harray : ∀ items inner, v.held = items → writeItems items = .ok inner →
        Passes .bare ('[' :: inner ++ [']']) .bare (∃ u ∈ v.held, u.HasUnreal) := by
      rintro items inner rfl hinner
      obtain ⟨texts, htexts, rfl⟩ := writeItems_ok_iff.mp hinner
      have hitems := forall₂_of_mem htexts fun u hu text hwrite => ih u hu hwrite
      exact (passes_joinPieces hitems).bracketed (by decide) (by decide)
    by_cases hunreal : v.HasUnreal
    · cases v with
      | float x =>
        rw [writeChars] at h
        cases h
        exact (passes_floatText (Value.hasUnreal_float_iff.mp hunreal)).congr
          (iff_of_true trivial hunreal)
      | list items =>
        obtain ⟨inner, hinner, rfl⟩ := writeChars_list_ok_iff.mp h
        exact (harray items inner rfl hinner).congr (Value.hasUnreal_iff_held (by simp)).symm
      | tuple items =>
        obtain ⟨inner, hinner, rfl⟩ := writeChars_tuple_ok_iff.mp h
        exact (harray items inner rfl hinner).congr (Value.hasUnreal_iff_held (by simp)).symm
      | dict entries =>
        obtain ⟨inner, hinner, rfl⟩ := writeChars_dict_ok_iff.mp h
        obtain ⟨texts, htexts, rfl⟩ := writeEntries_ok_iff.mp hinner
        have hentries : List.Forall₂ (fun entry text => Passes .bare text .bare entry.2.HasUnreal)
            entries texts := by
          refine forall₂_of_mem htexts fun entry hentry text hwrite => ?_
          obtain ⟨name, value, -, hvalue, rfl⟩ := writeEntry_ok_iff.mp hwrite
          exact (isString_stringText name).passes.silent_append
            (.cons_plain (by decide) (ih entry.2 (List.mem_map_of_mem hentry) hvalue))
        refine ((passes_joinPieces hentries).bracketed (by decide) (by decide)).congr ?_
        rw [Value.hasUnreal_iff_held (by simp)]
        simp only [Value.held, List.mem_map, exists_exists_and_eq_and]
      | _ =>
        obtain ⟨u, hheld, -⟩ := (Value.hasUnreal_iff_held (by simp)).mp hunreal
        exact absurd hheld List.not_mem_nil
    · exact (derives_of_write hunreal h).passes.congr (iff_of_false id hunreal)

/-- **A written value is a JSON text exactly if every number in it is a real.** -/
theorem isDocument_iff {v : Value} {text : String} (h : write v = .ok text) :
    IsDocument text ↔ ∀ x, v.Contains (.float x) → x.isFinite = true := by
  obtain ⟨cs, hcs, -, rfl⟩ := write_ok_iff.mp h
  rw [IsDocument, String.toList_ofList]
  constructor
  · intro hderives x hx
    by_contra hinfinite
    have hunreal : v.HasUnreal := ⟨x, hx, Bool.eq_false_iff.mpr hinfinite⟩
    have hword := (passes_of_write hcs []).mpr (.inl hunreal)
    exact ((hderives.passes []).mp hword).elim id id
  · intro hfinite
    refine (derives_of_write ?_ hcs).unpadded
    rintro ⟨x, hx, hunreal⟩
    exact absurd (hfinite x hx) (by simp [hunreal])

end Json

end ConnectRpc
