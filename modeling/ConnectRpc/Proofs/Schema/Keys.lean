import ConnectRpc.Proofs.Schema.Characters
import ConnectRpc.Proofs.Value
import ConnectRpc.Stub.View

/-!
# Keys of a message

The arguments of a call travel in one object, each under the key of its field, so an argument is
lost when another field has its key. A declaration may give the key; one that gives none means the
key that follows from the field's name. Given keys are checked when a document is read, derived ones
are not: a name of underscores only has the empty key, and different names may have one key.

So the keys of a request are none empty and pairwise distinct exactly if every field named by
underscores only is given a key and no two declarations mean the same one (`requestKeys_apart_iff`).
Names that are distinct are not enough (`related_names_share_key`). They are enough where no key is
given and the names are in lower case with single underscores between words, for there the snake
case takes the derived key back to the name (`snakeCase_jsonName`).
-/

namespace ConnectRpc.Schema

open Stub Text

/-! ## Empty keys -/

/-- The name has no character but underscores. -/
def onlyUnderscores (name : String) : Bool := name.toList.all (· == '_')

theorem capitaliseChars_eq_nil_iff {cs : List Char} : capitaliseChars cs = [] ↔ cs = [] := by
  cases cs with
  | nil => simp [capitaliseChars]
  | cons c rest => simp [capitaliseChars, capital_ne_nil]

/-- A text has no character but the separator exactly if nothing lies between the separators. -/
theorem forall_pieces_eq_nil_iff {sep : Char} {cs : List Char} :
    (∀ piece ∈ pieces sep cs, piece = []) ↔ ∀ c ∈ cs, c = sep := by
  induction cs with
  | nil => simp [pieces]
  | cons c rest ih =>
    rw [List.forall_mem_cons, ← ih, pieces]
    split
    · next heq => simp [heq]
    · next hne =>
      split
      · simp [hne]
      · simp [hne]

theorem jsonName_eq_empty_iff {name : String} :
    jsonName name = "" ↔ onlyUnderscores name = true := by
  rw [jsonName, String.ofList_eq_empty_iff, onlyUnderscores, List.all_eq_true]
  simp only [beq_iff_eq, ← forall_pieces_eq_nil_iff, jsonNameChars]
  split
  · next hpieces => exact absurd hpieces (pieces_ne_nil _ _)
  · next first rest hpieces =>
    rw [hpieces, List.append_eq_nil_iff, List.flatMap_eq_nil_iff, List.forall_mem_cons]
    simp only [capitaliseChars_eq_nil_iff]

/-! ## Keys that lead back to the name -/

/-- The character is one of the twenty-six small letters of ASCII. -/
def isSmallLetter (c : Char) : Bool := 'a' ≤ c && c ≤ 'z'

/-- The name has no capitals, begins with a character that is no underscore, and has a small letter
behind every underscore. -/
def isLowerSnake (name : String) : Bool :=
  name.toList.all (!isCapital ·) && name.toList.head?.any (· != '_') &&
    (pieces '_' name.toList).tail.all fun piece => piece.head?.any isSmallLetter

theorem isSmallLetter_iff {c : Char} :
    isSmallLetter c = true ↔ 97 ≤ c.toNat ∧ c.toNat ≤ 122 := by
  simp only [isSmallLetter, Bool.and_eq_true, decide_eq_true_eq, Char.le_def,
    UInt32.le_iff_toNat_le]
  rfl

/-- A small letter of ASCII has one capital, which leads back to it. -/
theorem capital_of_isSmallLetter {c : Char} (h : isSmallLetter c = true) :
    capital c = [c.toUpper] ∧ isCapital c.toUpper = true ∧ small c.toUpper = c := by
  have hall : ∀ n ∈ List.range 26,
      capital (Char.ofNat (n + 97)) = [(Char.ofNat (n + 97)).toUpper] ∧
      isCapital (Char.ofNat (n + 97)).toUpper = true ∧
      small (Char.ofNat (n + 97)).toUpper = Char.ofNat (n + 97) := by decide +kernel
  obtain ⟨hlow, hhigh⟩ := isSmallLetter_iff.mp h
  have hletter := hall (c.toNat - 97) (List.mem_range.mpr (by omega))
  rwa [Nat.sub_add_cancel hlow, Char.ofNat_toNat] at hletter

theorem snakeTail_eq_self {cs : List Char} (h : ∀ c ∈ cs, isCapital c = false) :
    snakeTail cs = cs := by
  induction cs with
  | nil => rfl
  | cons c rest ih =>
    obtain ⟨hc, hrest⟩ := List.forall_mem_cons.mp h
    rw [snakeTail, List.flatMap_cons, if_neg (by simp [hc]), ← snakeTail, ih hrest]
    rfl

/-- A word that begins with a small letter comes back out of its capital form with an underscore
before it. -/
theorem snakeTail_capitaliseChars {word : List Char} (hfirst : word.head?.any isSmallLetter = true)
    (hplain : ∀ c ∈ word, isCapital c = false) :
    snakeTail (capitaliseChars word) = '_' :: word := by
  cases word with
  | nil => simp at hfirst
  | cons c rest =>
    have hsmall : isSmallLetter c = true := by simpa using hfirst
    obtain ⟨hd, hcapital, hback⟩ := capital_of_isSmallLetter hsmall
    have hrest := snakeTail_eq_self (List.forall_mem_cons.mp hplain).2
    rw [capitaliseChars, hd, List.singleton_append, snakeTail, List.flatMap_cons, if_pos hcapital,
      ← snakeTail, hrest, hback]
    rfl

/-- A text is its first piece and, behind a separator each, the others. -/
theorem exists_pieces_eq_cons (sep : Char) (cs : List Char) :
    ∃ first rest, pieces sep cs = first :: rest ∧ cs = first ++ rest.flatMap (sep :: ·) := by
  induction cs with
  | nil => exact ⟨[], [], rfl, rfl⟩
  | cons c rest ih =>
    obtain ⟨first, more, hpieces, hrest⟩ := ih
    rw [pieces, hpieces]
    split
    · next heq => exact ⟨[], first :: more, rfl, by rw [heq, hrest]; simp⟩
    · exact ⟨c :: first, more, rfl, by rw [hrest]; rfl⟩

theorem snakeTail_flatMap_capitaliseChars {words : List (List Char)}
    (hfirst : ∀ word ∈ words, word.head?.any isSmallLetter = true)
    (hplain : ∀ word ∈ words, ∀ c ∈ word, isCapital c = false) :
    snakeTail (words.flatMap capitaliseChars) = words.flatMap ('_' :: ·) := by
  induction words with
  | nil => rfl
  | cons word more ih =>
    obtain ⟨hfirstWord, hfirstMore⟩ := List.forall_mem_cons.mp hfirst
    obtain ⟨hplainWord, hplainMore⟩ := List.forall_mem_cons.mp hplain
    rw [List.flatMap_cons, snakeTail_append, snakeTail_capitaliseChars hfirstWord hplainWord,
      ih hfirstMore hplainMore, List.flatMap_cons]

/-- The snake case undoes the key that follows from a name in lower snake case. -/
theorem snakeCase_jsonName {name : String} (h : isLowerSnake name = true) :
    snakeCase (jsonName name) = name := by
  simp only [isLowerSnake, Bool.and_eq_true, List.all_eq_true, Bool.not_eq_true'] at h
  obtain ⟨⟨hplain, hhead⟩, hwords⟩ := h
  obtain ⟨first, rest, hpieces, hname⟩ := exists_pieces_eq_cons '_' name.toList
  rw [hpieces, List.tail_cons] at hwords
  have hplainRest : ∀ word ∈ rest, ∀ c ∈ word, isCapital c = false := fun word hword c hc =>
    hplain c (by
      rw [hname]
      exact List.mem_append_right _
        (List.mem_flatMap.mpr ⟨word, hword, List.mem_cons_of_mem _ hc⟩))
  have hkey : jsonNameChars name.toList = first ++ rest.flatMap capitaliseChars := by
    rw [jsonNameChars, hpieces]
  have htail := snakeTail_flatMap_capitaliseChars hwords hplainRest
  rw [← String.toList_inj, snakeCase, jsonName, String.toList_ofList, String.toList_ofList, hkey]
  cases first with
  | nil =>
    -- The name would be empty, or begin with an underscore.
    cases rest with
    | nil => simp [hname] at hhead
    | cons word more => simp [hname] at hhead
  | cons c front =>
    have hfirst : ∀ x ∈ c :: front, isCapital x = false := fun x hx =>
      hplain x (by rw [hname]; exact List.mem_append_left _ hx)
    obtain ⟨hc, hfront⟩ := List.forall_mem_cons.mp hfirst
    rw [List.cons_append, snakeChars_cons, snakeTail_append, snakeTail_eq_self hfront, htail, hname,
      small, if_neg (by simp [hc]), List.cons_append]

theorem jsonName_inj {a b : String} (ha : isLowerSnake a = true) (hb : isLowerSnake b = true) :
    jsonName a = jsonName b ↔ a = b := by
  refine ⟨fun h => ?_, fun h => h ▸ rfl⟩
  rw [← snakeCase_jsonName ha, ← snakeCase_jsonName hb, h]

/-! ## Arguments under their keys -/

/-- An entry of an object. -/
def textEntry (entry : String × Value) : Value × Value := (.text entry.1, entry.2)

/-- The arguments that a call gives, each with the key of its field. -/
def givenEntries (keys : List String) (arguments : List (Option Value)) : List (String × Value) :=
  (keys.zip arguments).filterMap fun (key, argument) => argument.map (key, ·)

/-- The object that a stub fills with the given arguments, one field after the other. -/
def requestObject (fields : List FieldView) (arguments : List (Option Value)) : Value :=
  .ofPairs ((givenEntries (fields.map FieldView.jsonName) arguments).map textEntry)

theorem textEntry_injective : Function.Injective textEntry := by
  rintro ⟨key, value⟩ ⟨key', value'⟩ h
  simpa [textEntry] using h

theorem putEntry_of_not_mem {key : String} {value : Value} {entries : List (String × Value)}
    (h : key ∉ entries.map Prod.fst) :
    Value.putEntry (.text key) value (entries.map textEntry) =
      (entries ++ [(key, value)]).map textEntry := by
  have hnew : ∀ entry ∈ entries.map textEntry, ∃ other, entry.1 = .text other ∧ other ≠ key := by
    intro entry hentry
    obtain ⟨given, hgiven, rfl⟩ := List.mem_map.mp hentry
    exact ⟨given.1, rfl, fun heq => h (heq ▸ List.mem_map_of_mem hgiven)⟩
  rw [Value.putEntry_new hnew, List.map_append]
  rfl

theorem putEntry_of_mem {key : String} {entries : List (String × Value)}
    (h : key ∈ entries.map Prod.fst) (value : Value) :
    ∃ entries' : List (String × Value),
      Value.putEntry (.text key) value (entries.map textEntry) = entries'.map textEntry ∧
        entries'.map Prod.fst = entries.map Prod.fst := by
  induction entries with
  | nil => simp at h
  | cons entry rest ih =>
    rw [List.map_cons, textEntry, Value.putEntry]
    split
    · exact ⟨(entry.1, value) :: rest, rfl, rfl⟩
    · next hne =>
      have hrest : key ∈ rest.map Prod.fst := by
        rw [List.map_cons, List.mem_cons] at h
        refine h.resolve_left fun heq => hne ?_
        simp [Value.sameKey, heq]
      obtain ⟨entries', hput, hkeys⟩ := ih hrest
      exact ⟨entry :: entries', by rw [hput]; rfl, by rw [List.map_cons, hkeys, List.map_cons]⟩

/-- The entries of an object after more are filled in, one after the other. -/
def fill (entries : List (Value × Value)) (pairs : List (String × Value)) :
    List (Value × Value) :=
  (pairs.map textEntry).foldl (fun entries pair => Value.putEntry pair.1 pair.2 entries) entries

/-- Keys that are distinct and new are filled in as they come. -/
theorem fill_of_nodup {entries pairs : List (String × Value)}
    (h : ((entries ++ pairs).map Prod.fst).Nodup) :
    fill (entries.map textEntry) pairs = (entries ++ pairs).map textEntry := by
  induction pairs generalizing entries with
  | nil => simp [fill]
  | cons pair rest ih =>
    obtain ⟨key, value⟩ := pair
    have hsplit : entries ++ (key, value) :: rest = (entries ++ [(key, value)]) ++ rest := by simp
    have hnew : key ∉ entries.map Prod.fst := by
      rw [List.map_append, List.nodup_append] at h
      exact fun hmem => h.2.2 key hmem key (by simp) rfl
    rw [hsplit] at h ⊢
    rw [← ih h]
    exact congrArg (fill · rest) (putEntry_of_not_mem hnew)

/-- No key comes to stand in an object twice. -/
theorem exists_fill {entries : List (String × Value)} (h : (entries.map Prod.fst).Nodup)
    (pairs : List (String × Value)) :
    ∃ entries' : List (String × Value), fill (entries.map textEntry) pairs =
      entries'.map textEntry ∧ (entries'.map Prod.fst).Nodup := by
  induction pairs generalizing entries with
  | nil => exact ⟨entries, rfl, h⟩
  | cons pair rest ih =>
    by_cases hmem : pair.1 ∈ entries.map Prod.fst
    · obtain ⟨entries', hput, hkeys⟩ := putEntry_of_mem hmem pair.2
      obtain ⟨final, hfinal, hnodup⟩ := ih (hkeys ▸ h)
      refine ⟨final, ?_, hnodup⟩
      rw [← hfinal, ← hput]
      rfl
    · have hnodup : ((entries ++ [(pair.1, pair.2)]).map Prod.fst).Nodup := by
        rw [List.map_append, List.map_singleton, ← List.concat_eq_append]
        exact h.concat hmem
      obtain ⟨final, hfinal, hfinalNodup⟩ := ih hnodup
      refine ⟨final, ?_, hfinalNodup⟩
      rw [← hfinal, ← putEntry_of_not_mem hmem]
      rfl

/-- The keys of an object that is filled are those that it had and those that are filled in. -/
theorem exists_fill_keys (entries pairs : List (String × Value)) :
    ∃ entries' : List (String × Value), fill (entries.map textEntry) pairs =
      entries'.map textEntry ∧ ∀ key ∈ entries'.map Prod.fst,
        key ∈ entries.map Prod.fst ∨ key ∈ pairs.map Prod.fst := by
  induction pairs generalizing entries with
  | nil => exact ⟨entries, rfl, fun key hkey => .inl hkey⟩
  | cons pair rest ih =>
    have hput : ∃ entries' : List (String × Value),
        Value.putEntry (.text pair.1) pair.2 (entries.map textEntry) = entries'.map textEntry ∧
          ∀ key ∈ entries'.map Prod.fst, key ∈ entries.map Prod.fst ∨ key = pair.1 := by
      by_cases hmem : pair.1 ∈ entries.map Prod.fst
      · obtain ⟨entries', hput, hkeys⟩ := putEntry_of_mem hmem pair.2
        exact ⟨entries', hput, fun key hkey => .inl (hkeys ▸ hkey)⟩
      · refine ⟨entries ++ [pair], putEntry_of_not_mem hmem, fun key hkey => ?_⟩
        simpa using hkey
    obtain ⟨entries', hput, hkeys⟩ := hput
    obtain ⟨final, hfinal, hfinalKeys⟩ := ih entries'
    refine ⟨final, ?_, fun key hkey => ?_⟩
    · rw [← hfinal, ← hput]
      rfl
    · rw [List.map_cons, List.mem_cons]
      rcases hfinalKeys key hkey with hmem | hmem
      · exact (hkeys key hmem).imp_right .inl
      · exact .inr (.inr hmem)

theorem get?_textEntries_eq_none {key : String} {entries : List (String × Value)}
    (h : key ∉ entries.map Prod.fst) :
    Value.get? key (.dict (entries.map textEntry)) = none := by
  rw [Value.get?, Option.map_eq_none_iff, List.find?_eq_none]
  intro entry hentry
  obtain ⟨given, hgiven, rfl⟩ := List.mem_map.mp hentry
  simp only [textEntry, beq_iff_eq]
  exact fun heq => h (heq ▸ List.mem_map_of_mem hgiven)

/-- A key that no given argument has is not in the object. -/
theorem get?_requestObject_eq_none {key : String} {fields : List FieldView}
    {arguments : List (Option Value)}
    (h : key ∉ (givenEntries (fields.map FieldView.jsonName) arguments).map Prod.fst) :
    (requestObject fields arguments).get? key = none := by
  obtain ⟨entries, hfill, hkeys⟩ := exists_fill_keys []
    (givenEntries (fields.map FieldView.jsonName) arguments)
  have hobject : requestObject fields arguments = .dict (entries.map textEntry) :=
    congrArg Value.dict hfill
  rw [hobject]
  refine get?_textEntries_eq_none fun hmem => ?_
  rcases hkeys key hmem with hnone | hgiven
  · simp at hnone
  · exact h hgiven

theorem mem_givenEntries_iff {keys : List String} {arguments : List (Option Value)} {key : String}
    {value : Value} :
    (key, value) ∈ givenEntries keys arguments ↔ (key, some value) ∈ keys.zip arguments := by
  unfold givenEntries
  rw [List.mem_filterMap]
  constructor
  · rintro ⟨⟨key', argument⟩, hmem, hentry⟩
    obtain ⟨value', rfl, hvalue⟩ := Option.map_eq_some_iff.mp hentry
    cases hvalue
    exact hmem
  · exact fun h => ⟨_, h, rfl⟩

theorem map_fst_givenEntries_sublist (keys : List String) (arguments : List (Option Value)) :
    ((givenEntries keys arguments).map Prod.fst).Sublist keys := by
  induction keys generalizing arguments with
  | nil => simp [givenEntries]
  | cons key rest ih =>
    cases arguments with
    | nil => simp [givenEntries]
    | cons argument more =>
      have hrest := ih more
      cases argument with
      | none => exact .cons _ hrest
      | some value => exact .cons_cons _ hrest

theorem map_fst_givenEntries_of_all (keys : List String) (value : Value) :
    (givenEntries keys (List.replicate keys.length (some value))).map Prod.fst = keys := by
  induction keys with
  | nil => rfl
  | cons key rest ih => exact congrArg (key :: ·) ih

/-- Every argument that a call gives is found under the key of its field exactly if the keys are
pairwise distinct. -/
theorem requestObject_iff (fields : List FieldView) :
    (∀ arguments, requestObject fields arguments =
        .dict ((givenEntries (fields.map FieldView.jsonName) arguments).map textEntry)) ↔
      (fields.map FieldView.jsonName).Nodup := by
  constructor
  · intro h
    have hall := h (List.replicate (fields.map FieldView.jsonName).length (some .null))
    have hnil : (([] : List (String × Value)).map Prod.fst).Nodup := List.nodup_nil
    obtain ⟨entries, hentries, hnodup⟩ := exists_fill hnil
      (givenEntries (fields.map FieldView.jsonName)
        (List.replicate (fields.map FieldView.jsonName).length (some .null)))
    rw [requestObject, Value.ofPairs, Value.dict.injEq] at hall
    have heq := (List.map_injective_iff.mpr textEntry_injective) (hall.symm.trans hentries)
    rwa [← heq, map_fst_givenEntries_of_all] at hnodup
  · intro h arguments
    have hnodup : (([] ++ givenEntries (fields.map FieldView.jsonName) arguments).map
        Prod.fst).Nodup := h.sublist (map_fst_givenEntries_sublist _ arguments)
    exact congrArg Value.dict (fill_of_nodup hnodup)

/-! ## The keys of a request -/

section

variable {T α : Type} [DocumentText T] [Document T α]

/-- The text of a member that is one, if it is of characters. -/
def memberText? (d : α) (key : String) : Option String :=
  match memberShape d key with
  | some (.text s) => DocumentText.characters? s
  | _ => none

/-- The name that a field is declared under. -/
def declaredName (d : α) : String := (memberText? d "name").getD ""

/-- The key that the declaration of a field gives. -/
def givenKey? (d : α) : Option String := memberText? d "json_name"

/-- The key that the declaration of a field means. -/
def declaredKey (d : α) : String := (givenKey? d).getD (jsonName (declaredName d))

variable {d : α} {f : Field}

theorem IsField.declaredName_eq (h : IsField d f.embed) : declaredName d = f.name := by
  have hname : IsText (memberShape d "name") (DocumentText.ofString f.name) := h.name
  unfold declaredName memberText?
  generalize memberShape d "name" = shape at hname ⊢
  generalize hs : (DocumentText.ofString f.name : T) = s at hname
  cases hname with
  | text => simp [← hs]

theorem IsField.declaredKey_eq (h : IsField d f.embed) : declaredKey d = f.jsonName := by
  have hkey : IsKey (DocumentText.ofString f.name) (memberShape d "json_name")
      (DocumentText.ofString f.jsonName) := h.jsonName
  rw [declaredKey, h.declaredName_eq, givenKey?]
  unfold memberText?
  generalize memberShape d "json_name" = shape at hkey ⊢
  generalize hs : (DocumentText.ofString f.jsonName : T) = s at hkey
  have hderived : (DocumentText.ofString f.jsonName : T) =
      DocumentText.jsonName (DocumentText.ofString f.name) →
        Schema.jsonName f.name = f.jsonName := by
    rw [DocumentText.jsonName_ofString, DocumentText.ofString_inj]
    exact Eq.symm
  cases hkey with
  | missing => exact hderived hs
  | null => exact hderived hs
  | text => simp [← hs]

/-- A key that is given is not empty. -/
theorem IsField.givenKey?_ne_empty (h : IsField d f.embed) : givenKey? d ≠ some "" := by
  have hkey : IsKey (DocumentText.ofString f.name) (memberShape d "json_name")
      (DocumentText.ofString f.jsonName) := h.jsonName
  unfold givenKey? memberText?
  generalize memberShape d "json_name" = shape at hkey ⊢
  generalize (DocumentText.ofString f.jsonName : T) = s at hkey
  cases hkey with
  | missing => simp
  | null => simp
  | text nonempty => simpa [DocumentText.characters?_eq_some_iff] using nonempty

theorem IsField.jsonName_eq_empty_iff (h : IsField d f.embed) :
    f.jsonName = "" ↔ givenKey? d = none ∧ onlyUnderscores (declaredName d) = true := by
  have hgiven := h.givenKey?_ne_empty
  rw [← h.declaredKey_eq, declaredKey, ← Schema.jsonName_eq_empty_iff]
  cases hkey : givenKey? d with
  | none => simp
  | some key =>
    rw [hkey] at hgiven
    simpa using hgiven

/-- Two declarations mean one key: both give it, one gives what follows from the other's name, or it
follows from both names. -/
inductive SameKey (d d' : α) : Prop where
  | given {key : String} (first : givenKey? d = some key) (second : givenKey? d' = some key)
  | givenDerived (first : givenKey? d = some (jsonName (declaredName d')))
      (second : givenKey? d' = none)
  | derivedGiven (first : givenKey? d = none)
      (second : givenKey? d' = some (jsonName (declaredName d)))
  | derived (first : givenKey? d = none) (second : givenKey? d' = none)
      (same : jsonName (declaredName d) = jsonName (declaredName d'))

theorem sameKey_iff {d d' : α} : SameKey d d' ↔ declaredKey d = declaredKey d' := by
  constructor
  · intro h
    cases h with
    | given first second => simp [declaredKey, first, second]
    | givenDerived first second => simp [declaredKey, first, second]
    | derivedGiven first second => simp [declaredKey, first, second]
    | derived first second same => simp [declaredKey, first, second, same]
  · intro h
    cases hfirst : givenKey? d with
    | none =>
      cases hsecond : givenKey? d' with
      | none => exact .derived hfirst hsecond (by simpa [declaredKey, hfirst, hsecond] using h)
      | some key =>
        refine .derivedGiven hfirst ?_
        rw [hsecond]
        simpa [declaredKey, hfirst, hsecond] using h.symm
    | some key =>
      cases hsecond : givenKey? d' with
      | none =>
        refine .givenDerived ?_ hsecond
        rw [hfirst]
        simpa [declaredKey, hfirst, hsecond] using h
      | some key' =>
        refine .given hfirst ?_
        rw [hsecond]
        simpa [declaredKey, hfirst, hsecond] using h.symm

/-- The keys of a method's request, against the declarations of its fields. -/
structure RequestKeys (declarations : List α) (m : Method) : Prop where
  names : m.requestFields.map Field.name = declarations.map declaredName
  keys : m.requestFields.map Field.jsonName = declarations.map declaredKey
  /-- A field has the empty key exactly if it is named by underscores only and given no key. -/
  nonempty : (∀ f ∈ m.requestFields, f.jsonName ≠ "") ↔
    ∀ d ∈ declarations, onlyUnderscores (declaredName d) = true → givenKey? d ≠ none
  /-- Keys are pairwise distinct exactly if no two declarations mean the same. -/
  distinct : (m.requestFields.map Field.jsonName).Nodup ↔
    declarations.Pairwise fun d d' => ¬ SameKey d d'
  /-- In this case, and in no other, a call's arguments are all in its request. -/
  kept : (∀ arguments, requestObject (MethodView.of m).fields arguments =
      .dict ((givenEntries (m.requestFields.map Field.jsonName) arguments).map textEntry)) ↔
    declarations.Pairwise fun d d' => ¬ SameKey d d'
  /-- Distinct names in lower snake case without given keys have distinct keys. -/
  plain : (∀ d ∈ declarations, givenKey? d = none ∧ isLowerSnake (declaredName d) = true) →
    (m.requestFields.map Field.name).Nodup →
      (∀ f ∈ m.requestFields, f.jsonName ≠ "") ∧ (m.requestFields.map Field.jsonName).Nodup

theorem map_jsonName_views (fields : List Field) :
    (fields.map FieldView.of).map FieldView.jsonName = fields.map Field.jsonName := by
  have hview : ∀ f : Field, (FieldView.of f).jsonName = f.jsonName := by
    intro f
    unfold FieldView.of
    split
    · rfl
    · split <;> rfl
  rw [List.map_map]
  exact List.map_congr_left fun f _ => hview f

theorem map_jsonName_fields (m : Method) :
    (MethodView.of m).fields.map FieldView.jsonName = m.requestFields.map Field.jsonName :=
  map_jsonName_views m.requestFields

variable {declarations : List α} {fields : List Field}

theorem map_eq_map_of_isField {β : Type} {g : Field → β} {k : α → β}
    (h : List.Forall₂ (fun d f => IsField d f.embed) declarations fields)
    (hgk : ∀ d f, IsField d f.embed → g f = k d) : fields.map g = declarations.map k := by
  induction h with
  | nil => rfl
  | cons hfirst _ ih => rw [List.map_cons, List.map_cons, ih, hgk _ _ hfirst]

theorem forall_jsonName_ne_empty_iff
    (h : List.Forall₂ (fun d f => IsField d f.embed) declarations fields) :
    (∀ f ∈ fields, f.jsonName ≠ "") ↔
      ∀ d ∈ declarations, onlyUnderscores (declaredName d) = true → givenKey? d ≠ none := by
  induction h with
  | nil => simp
  | cons hfirst _ ih =>
    rw [List.forall_mem_cons, List.forall_mem_cons, ih, ne_eq, hfirst.jsonName_eq_empty_iff]
    exact and_congr_left fun _ =>
      ⟨fun h honly hnone => h ⟨hnone, honly⟩, fun h hboth => h hboth.2 hboth.1⟩

theorem not_onlyUnderscores_of_isLowerSnake {name : String} (h : isLowerSnake name = true) :
    onlyUnderscores name = false := by
  simp only [isLowerSnake, Bool.and_eq_true] at h
  rw [onlyUnderscores]
  cases hname : name.toList with
  | nil => simp [hname] at h
  | cons c rest =>
    have hc : c ≠ '_' := by simpa [hname] using h.1.2
    simp [hc]

theorem nodup_declaredKey (hplain : ∀ d ∈ declarations,
      givenKey? d = none ∧ isLowerSnake (declaredName d) = true)
    (hnames : (declarations.map declaredName).Nodup) : (declarations.map declaredKey).Nodup := by
  rw [List.Nodup, List.pairwise_map] at hnames ⊢
  refine hnames.imp_of_mem fun {d d'} hd hd' hne heq => hne ?_
  obtain ⟨hnone, hsnake⟩ := hplain d hd
  obtain ⟨hnone', hsnake'⟩ := hplain d' hd'
  rw [declaredKey, declaredKey, hnone, hnone', Option.getD_none, Option.getD_none] at heq
  exact (jsonName_inj hsnake hsnake').mp heq

theorem IsMethod.requestKeys [DecidableEq T] {m : Method} (h : IsMethod d m.embed) :
    RequestKeys (memberItems d "request_fields") m := by
  have hfields := List.forall₂_map_right_iff.mp h.requestFields.forall₂
  have hnames : m.requestFields.map Field.name =
      (memberItems d "request_fields").map declaredName :=
    map_eq_map_of_isField hfields fun d f hf => hf.declaredName_eq.symm
  have hkeys : m.requestFields.map Field.jsonName =
      (memberItems d "request_fields").map declaredKey :=
    map_eq_map_of_isField hfields fun d f hf => hf.declaredKey_eq.symm
  have hnonempty := forall_jsonName_ne_empty_iff hfields
  have hdistinct : (m.requestFields.map Field.jsonName).Nodup ↔
      (memberItems d "request_fields").Pairwise fun d d' => ¬ SameKey d d' := by
    rw [hkeys, List.Nodup, List.pairwise_map]
    simp only [sameKey_iff, ne_eq]
  refine ⟨hnames, hkeys, hnonempty, hdistinct, ?_, fun hplain hnodup => ⟨?_, ?_⟩⟩
  · rw [← hdistinct, ← map_jsonName_fields]
    exact requestObject_iff _
  · refine hnonempty.mpr fun d hd honly => ?_
    rw [not_onlyUnderscores_of_isLowerSnake (hplain d hd).2] at honly
    cases honly
  · rw [hkeys]
    rw [hnames] at hnodup
    exact nodup_declaredKey hplain hnodup

/-- **The keys of a request.** In an accepted document the keys of every method's request fields are
those that the declarations give or that follow from the names. None is empty exactly if every field
named by underscores only is given a key, and they are pairwise distinct, so that no argument of a
call is lost, exactly if no two declarations mean the same key. -/
theorem requestKeys_apart_iff [DecidableEq T] {files : List File}
    (h : readSchema d = .ok (files.map File.embed)) :
    List.Forall₂ (fun part m => RequestKeys (memberItems part "request_fields") m)
      (methodParts d) (methodsOf files) := by
  have hmethods := (readSchema_ok_iff.mp h).forall₂_methodParts
  rw [methodsOf_map_embed, List.forall₂_map_right_iff] at hmethods
  exact hmethods.imp fun _ _ hmethod => hmethod.requestKeys

end

/-! ## Documents of one method -/

/-- The declaration of a text field. -/
def textField (name : String) (key : Option String) : DocumentTree String :=
  .object ((("name", .text name) :: (key.map fun key => ("json_name", .text key)).toList) ++
    [("kind", .text "string")])

/-- A document of one method, whose request has the declared fields. -/
def requestDocument (declarations : List (DocumentTree String)) : DocumentTree String :=
  .object [("files", .list [.object [
    ("name", .text "users.proto"), ("services", .list [.object [
      ("name", .text "Users"), ("methods", .list [.object [
        ("name", .text "Find"), ("input_type", .text "Query"), ("output_type", .text "User"),
        ("request_fields", .list declarations)]])]])]])]

/-- A name of underscores only is no hindrance where a key is given, and neither is a name whose own
key would be that of another field. -/
theorem requestKeys_apart_given :
    let document := requestDocument [textField "user_id" none, textField "userId" (some "id"),
      textField "_" (some "rest")]
    ∃ files, readSchema document = .ok files ∧
      List.Forall₂ (fun part m => RequestKeys (memberItems part "request_fields") m)
        (methodParts document) (methodsOf files) ∧
      (methodsOf files).map (fun m => m.requestFields.map Field.jsonName) =
        [["userId", "id", "rest"]] := by
  intro document
  have hread : readSchema document = .ok [⟨"users.proto", "", [⟨"Users", [⟨"Find", "Query", "User",
      false, false, [⟨"user_id", "userId", "string", false, false⟩,
        ⟨"userId", "id", "string", false, false⟩, ⟨"_", "rest", "string", false, false⟩],
      []⟩]⟩]⟩] := by decide +kernel
  exact ⟨_, hread, requestKeys_apart_iff hread, rfl⟩

/-- Fields of different names: the first has the empty key, and the others have one between them, so
that of their two arguments only the later is sent. -/
theorem related_names_share_key :
    let document := requestDocument
      [textField "_" none, textField "user_id" none, textField "userId" none]
    ∃ files m, readSchema document = .ok files ∧ methodsOf files = [m] ∧
      (m.requestFields.map Field.name).Nodup ∧
      m.requestFields.map Field.jsonName = ["", "userId", "userId"] ∧
      requestObject (MethodView.of m).fields
          [some (.text "eve"), some (.text "ann"), some (.text "bob")] =
        .dict [(.text "", .text "eve"), (.text "userId", .text "bob")] := by
  intro document
  refine ⟨[⟨"users.proto", "", [⟨"Users", [⟨"Find", "Query", "User", false, false,
    [⟨"_", "", "string", false, false⟩, ⟨"user_id", "userId", "string", false, false⟩,
      ⟨"userId", "userId", "string", false, false⟩], []⟩]⟩]⟩], _, ?_, rfl, ?_, rfl, rfl⟩
  · decide +kernel
  · decide

end ConnectRpc.Schema
