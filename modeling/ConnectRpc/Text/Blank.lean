import ConnectRpc.Text.Ranges

/-!
# Blank characters

Blank characters are the white space of Unicode 14 together with the four information separators
U+001C to U+001F. Trimming takes them off the ends of a text and nothing else.

* `isBlank`: membership.
* `trimStart`, `trimEnd`, `trim` on lists of characters, and `trimmed` on texts.
* `trim_append_append`: blanks put at the ends of a text are trimmed off again.
* `trim_append_cons`: where a character is not blank, both sides are trimmed by themselves.
-/

namespace ConnectRpc.Text

/-- Code points of the blank characters. -/
def blankRanges : Ranges :=
  [(0x9, 0xD), (0x1C, 0x20), (0x85, 0x85), (0xA0, 0xA0), (0x1680, 0x1680), (0x2000, 0x200A),
   (0x2028, 0x2029), (0x202F, 0x202F), (0x205F, 0x205F), (0x3000, 0x3000)]

/-- The character is white space or an information separator. -/
def isBlank (c : Char) : Bool := blankRanges.has c

/-- The characters without the leading ones that satisfy `p`. -/
def dropLeading (p : Char → Bool) (cs : List Char) : List Char := cs.dropWhile p

/-- The characters without the trailing ones that satisfy `p`. -/
def dropTrailing (p : Char → Bool) (cs : List Char) : List Char := (cs.reverse.dropWhile p).reverse

/-- Without leading blanks. -/
def trimStart (cs : List Char) : List Char := dropLeading isBlank cs

/-- Without trailing blanks. -/
def trimEnd (cs : List Char) : List Char := dropTrailing isBlank cs

/-- Without blanks at either end. -/
def trim (cs : List Char) : List Char := trimEnd (trimStart cs)

/-- The text without blanks at either end. -/
def trimmed (s : String) : String := String.ofList (trim s.toList)

theorem dropTrailing_concat_of_not {p : Char → Bool} {c : Char} (h : p c = false)
    (cs : List Char) : dropTrailing p (cs ++ [c]) = cs ++ [c] := by
  simp [dropTrailing, h]

theorem dropTrailing_append_of_all {p : Char → Bool} {tail : List Char}
    (h : ∀ c ∈ tail, p c = true) (cs : List Char) :
    dropTrailing p (cs ++ tail) = dropTrailing p cs := by
  rw [dropTrailing, List.reverse_append, List.dropWhile_append_of_pos (by simpa using h)]
  rfl

theorem dropTrailing_append_replicate {p : Char → Bool} {c : Char} (h : p c = true)
    (cs : List Char) (n : Nat) : dropTrailing p (cs ++ List.replicate n c) = dropTrailing p cs :=
  dropTrailing_append_of_all (fun _ hd => List.eq_of_mem_replicate hd ▸ h) cs

/-! ## Trimming -/

section

variable {blanks blanks' : List Char} {c : Char}

theorem trimStart_append (h : ∀ c ∈ blanks, isBlank c = true) (cs : List Char) :
    trimStart (blanks ++ cs) = trimStart cs :=
  List.dropWhile_append_of_pos h

theorem trimEnd_append (h : ∀ c ∈ blanks, isBlank c = true) (cs : List Char) :
    trimEnd (cs ++ blanks) = trimEnd cs :=
  dropTrailing_append_of_all h cs

theorem trimStart_trimStart (cs : List Char) : trimStart (trimStart cs) = trimStart cs := by
  have hleading : ∀ c ∈ cs.takeWhile isBlank, isBlank c = true :=
    List.all_eq_true.mp List.all_takeWhile
  have happend := trimStart_append hleading (cs.dropWhile isBlank)
  rw [List.takeWhile_append_dropWhile] at happend
  exact happend.symm

theorem trimEnd_trimEnd (cs : List Char) : trimEnd (trimEnd cs) = trimEnd cs := by
  have hstart := trimStart_trimStart cs.reverse
  simp only [trimStart, dropLeading] at hstart
  simp only [trimEnd, dropTrailing, List.reverse_reverse, hstart]

/-- What stands behind a character that is not blank is not trimmed at the front. -/
theorem trimStart_append_cons (h : isBlank c = false) (cs cs' : List Char) :
    trimStart (cs ++ c :: cs') = trimStart cs ++ c :: cs' := by
  rw [trimStart, dropLeading, List.dropWhile_append]
  split
  · next hempty =>
    rw [trimStart, dropLeading, List.isEmpty_iff.mp hempty,
      List.dropWhile_cons_of_neg (by simp [h])]
    rfl
  · rfl

theorem trimEnd_append_cons (h : isBlank c = false) (cs cs' : List Char) :
    trimEnd (cs ++ c :: cs') = cs ++ c :: trimEnd cs' := by
  have hstart := trimStart_append_cons h cs'.reverse cs.reverse
  simp only [trimStart, dropLeading] at hstart
  simp [trimEnd, dropTrailing, hstart]

theorem trim_append_cons (h : isBlank c = false) (cs cs' : List Char) :
    trim (cs ++ c :: cs') = trimStart cs ++ c :: trimEnd cs' := by
  rw [trim, trimStart_append_cons h, trimEnd_append_cons h]

theorem trim_of_blank {cs : List Char} (h : ∀ c ∈ cs, isBlank c = true) : trim cs = [] := by
  have hstart := trimStart_append h []
  rw [List.append_nil] at hstart
  rw [trim, hstart]
  rfl

/-- It does not matter which end is trimmed first. -/
theorem trimStart_trimEnd (cs : List Char) : trimStart (trimEnd cs) = trim cs := by
  by_cases hall : ∀ c ∈ cs, isBlank c = true
  · have hend := trimEnd_append hall []
    rw [List.nil_append] at hend
    rw [trim_of_blank hall, hend]
    rfl
  · obtain ⟨c, hmem, hc⟩ : ∃ c ∈ cs, isBlank c = false := by simpa using hall
    obtain ⟨front, back, rfl⟩ := List.append_of_mem hmem
    rw [trimEnd_append_cons hc, trimStart_append_cons hc, trim_append_cons hc]

theorem trim_trimStart (cs : List Char) : trim (trimStart cs) = trim cs := by
  rw [trim, trimStart_trimStart, trim]

theorem trim_trimEnd (cs : List Char) : trim (trimEnd cs) = trim cs := by
  rw [← trimStart_trimEnd, trimEnd_trimEnd, trimStart_trimEnd]

theorem trim_of_not_blank {cs : List Char} (h : ∀ c ∈ cs, isBlank c = false) : trim cs = cs := by
  cases cs with
  | nil => rfl
  | cons c rest =>
    have hstart := trimStart_append_cons (h c List.mem_cons_self) [] rest
    obtain ⟨front, last, hlast⟩ : ∃ front last, c :: rest = front ++ [last] :=
      ⟨_, _, (List.dropLast_concat_getLast (List.cons_ne_nil c rest)).symm⟩
    have hend := trimEnd_append_cons (h last (hlast ▸ by simp)) front []
    rw [List.nil_append] at hstart
    rw [trim, hstart]
    change trimEnd (c :: rest) = _
    rw [hlast, hend]
    rfl

/-- Blanks at the ends of a text make no difference once it is trimmed. -/
theorem trim_append_append (h : ∀ c ∈ blanks, isBlank c = true)
    (h' : ∀ c ∈ blanks', isBlank c = true) (cs : List Char) :
    trim (blanks ++ cs ++ blanks') = trim cs := by
  rw [← trimStart_trimEnd, trimEnd_append h', trimStart_trimEnd, trim, trimStart_append h, trim]

end

end ConnectRpc.Text
