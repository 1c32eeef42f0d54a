import ConnectRpc.Proofs.Stub.ModulePaths

/-!
# Names that can be imported

A unit can be imported if the names of its module are identifiers and no keywords. Module names are
made from any text by replacing what is no word character, and word characters are not the
characters of identifiers: some of them, superscript digits and fractions among them, stand in no
identifier, and a few may not come first. So a module name is an identifier exactly if its text has
none of these (`isIdentifier_moduleName_iff`).

Keywords are escaped part by part. No part by itself is a keyword for that reason, but the suffix of
client units is put behind the stem after it has been escaped, and the two can make up a keyword
(`moduleName_append_mem_keywords_iff`); the module of the runtime is not escaped at all.

Main statement: which units can be imported, and which type names can be used, in terms of the names
that they are made from (`importable_iff`). Each way to fail has an example in
`unimportable_names`.
-/

namespace ConnectRpc.Stub

open Text

/-- The name can stand in an import: it is an identifier and no keyword. -/
def Importable (name : String) : Prop := isIdentifier name = true ∧ name ∉ keywords

instance (name : String) : Decidable (Importable name) := inferInstanceAs (Decidable (_ ∧ _))

/-! ## Module names as identifiers -/

/-- The word characters of the name make an identifier: all of them may stand in one, and the first,
where it is the first of the name and no digit, may begin one. -/
structure SpellsIdentifier (name : String) : Prop where
  continues : ∀ c ∈ name.toList, isWordChar c = true → isIdentifierContinue c = true
  starts : ∀ c ∈ name.toList.head?, isWordChar c = true → isDigitChar c = false →
    isIdentifierStart c = true

theorem isIdentifierStart_underscore : isIdentifierStart '_' = true := by decide

theorem isIdentifierContinue_underscore : isIdentifierContinue '_' = true :=
  isIdentifierContinue_of_isIdentifierStart isIdentifierStart_underscore

/-- An underscore behind a name changes nothing as far as identifiers are concerned. -/
theorem isIdentifierChars_underscored {cs : List Char} (h : cs ≠ []) :
    isIdentifierChars (cs ++ ['_']) = isIdentifierChars cs := by
  rw [isIdentifierChars_append h]
  simp [isIdentifierContinue_underscore]

theorem all_wordsOnly_iff {cs : List Char} :
    (wordsOnly cs).all isIdentifierContinue = true ↔
      ∀ c ∈ cs, isWordChar c = true → isIdentifierContinue c = true := by
  rw [List.all_eq_true, wordsOnly, List.forall_mem_map]
  refine forall₂_congr fun c _ => ?_
  by_cases hword : isWordChar c = true
  · simp [hword]
  · simp [hword, isIdentifierContinue_underscore]

theorem isIdentifierChars_guardFirst_iff (cs : List Char) :
    isIdentifierChars (guardFirst (wordsOnly cs)) = true ↔
      (∀ c ∈ cs, isWordChar c = true → isIdentifierContinue c = true) ∧
        ∀ c ∈ cs.head?, isWordChar c = true → isDigitChar c = false →
          isIdentifierStart c = true := by
  rw [← all_wordsOnly_iff]
  cases cs with
  | nil => simp [wordsOnly, guardFirst, isIdentifierChars_cons, isIdentifierStart_underscore]
  | cons c rest =>
    have hmap : wordsOnly (c :: rest) = (if isWordChar c then c else '_') :: wordsOnly rest := rfl
    rw [hmap]
    by_cases hword : isWordChar c = true
    · by_cases hdigit : isDigitChar c = true
      · simp [guardFirst, isIdentifierChars_cons, hword, hdigit, isIdentifierStart_underscore]
      · -- The first character stays the first, and what may come first may also go on.
        simp only [guardFirst, hword, hdigit, if_true, Bool.false_eq_true, if_false,
          isIdentifierChars_cons, List.all_cons, Bool.and_eq_true, List.head?_cons,
          Option.mem_some_iff, forall_eq', forall_const]
        exact ⟨fun h => ⟨⟨isIdentifierContinue_of_isIdentifierStart h.1, h.2⟩, h.1⟩,
          fun h => ⟨h.2, h.1.2⟩⟩
    · have hdigit : isDigitChar '_' = false := by decide
      simp [guardFirst, isIdentifierChars_cons, hword, hdigit, isIdentifierStart_underscore,
        isIdentifierContinue_underscore]

theorem isIdentifier_moduleName_iff (name : String) :
    isIdentifier (moduleName name) = true ↔ SpellsIdentifier name := by
  have hchars : isIdentifier (moduleName name) = isIdentifierChars (cleanChars name) := by
    rcases toList_moduleName name with h | h
    · rw [isIdentifier, h]
    · rw [isIdentifier, h]
      exact isIdentifierChars_underscored (guardFirst_ne_nil _)
  rw [hchars, cleanChars, isIdentifierChars_guardFirst_iff]
  exact ⟨fun h => ⟨h.1, h.2⟩, fun h => ⟨h.continues, h.starts⟩⟩

theorem importable_moduleName_iff (name : String) :
    Importable (moduleName name) ↔ SpellsIdentifier name := by
  rw [Importable, isIdentifier_moduleName_iff,
    and_iff_left (moduleName_not_mem_keywords name)]

theorem importable_typeName_iff (name : String) :
    Importable (typeName name) ↔ SpellsIdentifier name := by
  have hidentifier : isIdentifier (typeName name) = isIdentifier (moduleName name) := by
    rcases typeName_eq name with h | h
    · rw [h]
    · rw [isIdentifier, h, String.toList_append]
      exact isIdentifierChars_underscored (toList_moduleName_ne_nil name)
  rw [Importable, hidentifier, isIdentifier_moduleName_iff,
    and_iff_left (typeName_not_mem_keywords name)]

/-! ## ASCII names -/

/-- Code points of the ASCII letters and of the underscore. -/
def asciiLetterRanges : Ranges := [(0x41, 0x5A), (0x5F, 0x5F), (0x61, 0x7A)]

section

variable {c : Char}

theorem isWordChar_of_asciiLetter (h : asciiLetterRanges.has c = true) : isWordChar c = true :=
  Ranges.has_of_within (by decide +kernel) h

theorem isDigitChar_of_asciiLetter (h : asciiLetterRanges.has c = true) : isDigitChar c = false :=
  Ranges.not_has_of_apart (by decide +kernel) h

theorem isIdentifierStart_of_asciiLetter (h : asciiLetterRanges.has c = true) :
    isIdentifierStart c = true :=
  Ranges.has_of_within (by decide +kernel) h

/-- Apart from these letters, the ASCII word characters are the ten digits. -/
theorem digit_or_letter_of_ascii (hword : isWordChar c = true) (hascii : c.toNat < 0x80) :
    Ranges.has [(0x30, 0x39)] c = true ∨ asciiLetterRanges.has c = true := by
  have hranges : ∀ range ∈ wordRanges, range.1 < 0x80 →
      range ∈ (0x30, 0x39) :: asciiLetterRanges := by decide +kernel
  obtain ⟨range, hrange, hlow, hhigh⟩ := (wordRanges.has_iff c).mp hword
  rcases List.mem_cons.mp (hranges range hrange (by omega)) with rfl | hletter
  · exact .inl ((Ranges.has_iff _ c).mpr ⟨_, List.mem_cons_self, hlow, hhigh⟩)
  · exact .inr ((Ranges.has_iff _ c).mpr ⟨range, hletter, hlow, hhigh⟩)

end

/-- No name is spoiled by ASCII characters. -/
theorem spellsIdentifier_of_ascii {name : String} (h : ∀ c ∈ name.toList, c.toNat < 0x80) :
    SpellsIdentifier name where
  continues c hc hword := by
    rcases digit_or_letter_of_ascii hword (h c hc) with hdigit | hletter
    · exact Ranges.has_of_within (by decide +kernel) hdigit
    · exact isIdentifierContinue_of_isIdentifierStart (isIdentifierStart_of_asciiLetter hletter)
  starts c hc hword hplain := by
    rcases digit_or_letter_of_ascii hword (h c (List.mem_of_mem_head? hc)) with hdigit | hletter
    · have hdigitChar : isDigitChar c = true := Ranges.has_of_within (by decide +kernel) hdigit
      rw [hplain] at hdigitChar
      cases hdigitChar
    · exact isIdentifierStart_of_asciiLetter hletter

/-! ## Suffixes -/

theorem not_mem_underscore_of_mem_keywords {word : String} (h : word ∈ keywords) :
    '_' ∉ word.toList := by
  have hall : ∀ word ∈ keywords, '_' ∉ word.toList := by decide
  exact hall word h

theorem letter_of_mem_keyword {word : String} (h : word ∈ keywords) :
    ∀ c ∈ word.toList, asciiLetterRanges.has c = true := by
  have hall : keywords.all (fun word => word.toList.all asciiLetterRanges.has) = true := by
    decide +kernel
  exact fun c hc => List.all_eq_true.mp (List.all_eq_true.mp hall word h) c hc

/-- What begins a keyword without being one, or nothing, is a module name as it stands. -/
theorem moduleName_eq_self_of_begins {stem word : String} (hword : word ∈ keywords)
    (hfront : stem.toList <+: word.toList) (hne : stem ≠ "") (hstem : stem ∉ keywords) :
    moduleName stem = stem := by
  have hletter : ∀ c ∈ stem.toList, asciiLetterRanges.has c = true := fun c hc =>
    letter_of_mem_keyword hword c (hfront.subset hc)
  have hwords : wordsOnly stem.toList = stem.toList :=
    (List.map_congr_left fun c hc => if_pos (isWordChar_of_asciiLetter (hletter c hc))).trans
      (List.map_id _)
  have hguard : guardFirst stem.toList = stem.toList := by
    cases hs : stem.toList with
    | nil => exact absurd (String.toList_eq_nil_iff.mp hs) hne
    | cons c rest =>
      have hc := isDigitChar_of_asciiLetter (hletter c (hs ▸ List.mem_cons_self))
      simp [guardFirst, hc]
  have hclean : String.ofList (guardFirst (wordsOnly stem.toList)) = stem := by
    rw [hwords, hguard, String.ofList_toList]
  unfold moduleName
  rw [hclean]
  exact if_neg hstem

/-- A stem and a suffix make up a keyword as they stand; the stem is neither empty nor itself a
keyword, in which case it would be escaped. -/
def CompletesKeyword (stem suffix : String) : Prop :=
  stem ≠ "" ∧ stem ∉ keywords ∧ stem ++ suffix ∈ keywords

/-- Only so can a suffix make a keyword of a module name. -/
theorem moduleName_append_mem_keywords_iff {stem suffix : String} :
    moduleName stem ++ suffix ∈ keywords ↔ CompletesKeyword stem suffix := by
  constructor
  · intro h
    have hplain : '_' ∉ (moduleName stem).toList := by
      have hword := not_mem_underscore_of_mem_keywords h
      rw [String.toList_append, List.mem_append, not_or] at hword
      exact hword.1
    have hself := moduleName_eq_self_of_not_mem hplain
    refine ⟨?_, hself ▸ moduleName_not_mem_keywords stem, hself ▸ h⟩
    rintro rfl
    exact toList_moduleName_ne_nil "" (by rw [hself]; rfl)
  · rintro ⟨hne, hstem, h⟩
    have hfront : stem.toList <+: (stem ++ suffix).toList :=
      ⟨suffix.toList, String.toList_append.symm⟩
    rwa [moduleName_eq_self_of_begins h hfront hne hstem]

/-- A suffix that may go on in identifiers spoils a module name only by making a keyword of it. -/
theorem importable_moduleName_append_iff {stem suffix : String}
    (hsuffix : ∀ c ∈ suffix.toList, isIdentifierContinue c = true) :
    Importable (moduleName stem ++ suffix) ↔
      SpellsIdentifier stem ∧ ¬ CompletesKeyword stem suffix := by
  have hidentifier : isIdentifier (moduleName stem ++ suffix) = isIdentifier (moduleName stem) := by
    rw [isIdentifier, String.toList_append,
      isIdentifierChars_append (toList_moduleName_ne_nil stem), List.all_eq_true.mpr hsuffix,
      Bool.and_true, isIdentifier]
  rw [Importable, hidentifier, isIdentifier_moduleName_iff, moduleName_append_mem_keywords_iff]

/-! ## Units and types -/

/-- The names that the path of a schema file's unit is made from: those of the file's folders, with
the root as one of them if there is one, and its stem. -/
def placeNames (fileName : String) : List String :=
  (SlashPath.parse fileName).parent.parts ++ [(SlashPath.parse fileName).stem]

theorem importable_clientPath_iff (fileName : String) (p : Profile) :
    (∀ name ∈ moduleNames (clientPath fileName p), Importable name) ↔
      (∀ name ∈ placeNames fileName, SpellsIdentifier name) ∧
        ¬ CompletesKeyword (SlashPath.parse fileName).stem p.clientSuffix := by
  have hmodule : Importable (unitModule fileName p) ↔
      SpellsIdentifier (SlashPath.parse fileName).stem ∧
        ¬ CompletesKeyword (SlashPath.parse fileName).stem p.clientSuffix :=
    importable_moduleName_append_iff p.isIdentifierContinue_of_mem_clientSuffix
  have hfolders : (∀ folder ∈ unitFolders fileName, Importable folder) ↔
      ∀ name ∈ (SlashPath.parse fileName).parent.parts, SpellsIdentifier name := by
    rw [unitFolders, List.forall_mem_map]
    exact forall₂_congr fun name _ => importable_moduleName_iff name
  rw [moduleNames_clientPath, placeNames, List.forall_mem_append, List.forall_mem_append, hfolders]
  simp only [List.mem_singleton, forall_eq, hmodule, and_assoc]

theorem importable_runtimeModule_iff (p : Profile) :
    Importable p.runtimeModule ↔ p.runtimeModule ∉ keywords := by
  rw [Importable, and_iff_right p.runtimeModule_isIdentifier]

/-- **What can be imported.** A schema file's unit can be imported exactly if the word characters of
each name in the file's path make an identifier, and the suffix of units makes no keyword of the
stem. The runtime can be, as the unit and as what clients import, exactly if its module is not
called as a keyword. A message's shape has a usable name exactly if the word characters of the
message's name make an identifier. -/
theorem importable_iff (fileName message : String) (p : Profile) :
    ((∀ name ∈ moduleNames (clientPath fileName p), Importable name) ↔
      (∀ name ∈ placeNames fileName, SpellsIdentifier name) ∧
        ¬ CompletesKeyword (SlashPath.parse fileName).stem p.clientSuffix) ∧
    ((∀ name ∈ moduleNames (runtimePath p), Importable name) ↔ p.runtimeModule ∉ keywords) ∧
    (Importable (namedBehindDots (runtimeImport fileName p)) ↔ p.runtimeModule ∉ keywords) ∧
    (Importable (typeName message) ↔ SpellsIdentifier message) := by
  have hruntime := importable_runtimeModule_iff p
  refine ⟨importable_clientPath_iff fileName p, ?_, ?_, importable_typeName_iff message⟩
  · rw [moduleNames_runtimePath]
    simpa using hruntime
  · rwa [runtimeImport_eq_dotted, namedBehindDots_dotted p.not_mem_dot_runtimeModule]

/-- A folder with a superscript digit in its name, a stem that becomes a keyword with the suffix of
units, a runtime called as a keyword, and a message with a fraction in its name. -/
theorem unimportable_names :
    let shortSuffix : Profile := ⟨"f", "rt", none, by decide +kernel, by decide +kernel⟩
    let keywordRuntime : Profile := ⟨"_rpc", "class", none, by decide +kernel, by decide +kernel⟩
    (moduleNames (clientPath "x²/y.proto" defaultProfile) = ["x²", "y_connect"] ∧
      ¬ Importable "x²") ∧
    (moduleNames (clientPath "i.proto" shortSuffix) = ["if"] ∧ ¬ Importable "if") ∧
    (moduleNames (runtimePath keywordRuntime) = ["class"] ∧ ¬ Importable "class") ∧
    (typeName "Cup½" = "Cup½" ∧ ¬ Importable "Cup½") := by
  dsimp only
  decide +kernel

end ConnectRpc.Stub
