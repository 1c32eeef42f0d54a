import ConnectRpc.Proofs.Schema.Keys
import ConnectRpc.Descriptor.Resolution

/-!
# Derived keys in one pass

The key of a field that is given none is made by cutting the field's name at the underscores and
joining the pieces, all but the first with their first character raised to its capital. Compilers of
schemas make it in one pass over the name instead: an underscore is dropped and raises the character
behind it (`scanKey`). Servers expect the keys of that pass, so a key on which the two differ would
be sent and not be read.

They agree on every name in ASCII, wherever its underscores, digits and capitals stand
(`derivedKeys_eq_scanKey`), for documents that give no key as for compiled declarations that leave
it unset. The pass carries its flag along, so the induction is on a statement for both of its values
(`scanKeyChars_eq`): a raised flag acts on the first piece as an underscore does on the later ones.
-/

namespace ConnectRpc.Schema

open Text Descriptor

/-! ## The pass -/

/-- The characters that one pass over the rest of a name makes. The flag says that the next
character is to be raised if it is a small letter. -/
def scanKeyChars : Bool → List Char → List Char
  | _, [] => []
  | raise, c :: rest =>
    if c = '_' then scanKeyChars true rest
    else (if raise && isSmallLetter c then c.toUpper else c) :: scanKeyChars false rest

/-- The key that one pass over a name makes. -/
def scanKey (name : String) : String := String.ofList (scanKeyChars false name.toList)

/-- The name has no characters beyond ASCII. -/
def IsAscii (name : String) : Prop := ∀ c ∈ name.toList, c.toNat < 128

instance (name : String) : Decidable (IsAscii name) :=
  List.decidableBAll (fun c : Char => c.toNat < 128) name.toList

/-- In ASCII only the small letters have a capital of their own. -/
theorem capital_of_lt {c : Char} (h : c.toNat < 128) :
    capital c = [if isSmallLetter c then c.toUpper else c] := by
  -- The other characters are not looked up one by one: each would go through both tables.
  have hlong : ∀ entry ∈ longCapitals, 128 ≤ entry.1 := by decide
  have hruns : ∀ run ∈ capitalRuns, run.first = 97 ∧ run.last = 122 ∨ 128 ≤ run.first := by
    decide +kernel
  by_cases hsmall : isSmallLetter c = true
  · rw [if_pos hsmall, (capital_of_isSmallLetter hsmall).1]
  · rw [if_neg hsmall]
    rw [isSmallLetter_iff] at hsmall
    rcases capital_cases c with ⟨entry, hentry, hcode, -⟩ | ⟨run, hrun, hcovers, -⟩ | hself
    · have hbeyond := hlong entry hentry
      omega
    · simp only [CapitalRun.covers, Bool.and_eq_true, decide_eq_true_eq] at hcovers
      have hbounds := hruns run hrun
      omega
    · exact hself

/-- The pass over a text cut into pieces: the first piece is raised if the flag is, every later one
because of the underscore before it. -/
theorem scanKeyChars_eq {cs first : List Char} {rest : List (List Char)}
    (hascii : ∀ c ∈ cs, c.toNat < 128) (hpieces : pieces '_' cs = first :: rest) (raise : Bool) :
    scanKeyChars raise cs =
      (if raise then capitaliseChars first else first) ++ rest.flatMap capitaliseChars := by
  induction cs generalizing first rest raise with
  | nil =>
    obtain ⟨rfl, rfl⟩ : [] = first ∧ [] = rest := by simpa [pieces] using hpieces
    cases raise <;> simp [scanKeyChars, capitaliseChars]
  | cons c more ih =>
    obtain ⟨hc, hmore⟩ := List.forall_mem_cons.mp hascii
    obtain ⟨front, behind, hcut, -⟩ := exists_pieces_eq_cons '_' more
    rw [pieces, hcut] at hpieces
    by_cases hunderscore : c = '_'
    · obtain ⟨rfl, rfl⟩ : [] = first ∧ front :: behind = rest := by
        simpa [hunderscore] using hpieces
      rw [scanKeyChars, if_pos hunderscore, ih hmore hcut]
      cases raise <;> simp [capitaliseChars]
    · obtain ⟨rfl, rfl⟩ : c :: front = first ∧ behind = rest := by
        simpa [hunderscore] using hpieces
      rw [scanKeyChars, if_neg hunderscore, ih hmore hcut]
      cases raise <;> simp [capitaliseChars, capital_of_lt hc]

theorem jsonName_eq_scanKey {name : String} (h : IsAscii name) :
    jsonName name = scanKey name := by
  obtain ⟨first, rest, hpieces, -⟩ := exists_pieces_eq_cons '_' name.toList
  rw [jsonName, scanKey, jsonNameChars, hpieces, scanKeyChars_eq h hpieces]
  simp

/-! ## Where keys are derived -/

/-- A declaration that gives no key means the one that follows from the name. -/
theorem IsField.jsonName_of_not_given {T α : Type} [DocumentText T] [Document T α] {d : α}
    {f : Field T} (h : IsField d f) (hgiven : ∀ key, memberShape d "json_name" ≠ some (.text key)) :
    f.jsonName = DocumentText.jsonName f.name := by
  have hkey := h.jsonName
  generalize memberShape d "json_name" = shape at hkey hgiven
  generalize f.jsonName = key at hkey ⊢
  cases hkey with
  | missing => rfl
  | null => rfl
  | text => exact absurd rfl (hgiven _)

/-- **Derived keys are those of one pass.** For a name in ASCII the derived key is what one pass
over the name makes. It is the key of every field of that name that is read from a document without
one, whatever texts the document is made of, and of every compiled field of that name whose key is
unset. -/
theorem derivedKeys_eq_scanKey {name : String} (hascii : IsAscii name) :
    jsonName name = scanKey name ∧
    (∀ {T α : Type} [DecidableEq T] [DocumentText T] [Document T α] (place : Place) (d : α)
        (f : Field T),
      readField place d = .ok f → f.name = DocumentText.ofString name →
        (∀ key, memberShape d "json_name" ≠ some (.text key)) →
          f.jsonName = DocumentText.ofString (scanKey name)) ∧
    ∀ (index : List Descriptor.Entry) (language : String) (f : FieldDecl),
      f.name = name → f.jsonName = "" → (fieldOf index language f).jsonName = scanKey name := by
  have hkey := jsonName_eq_scanKey hascii
  refine ⟨hkey, ?_, ?_⟩
  · intro T α _ _ _ place d f hread hname hgiven
    have hfield := (readField_ok_iff place d f).mp hread
    rw [hfield.jsonName_of_not_given hgiven, hname, DocumentText.jsonName_ofString, hkey]
  · intro index language f hname hunset
    simp only [fieldOf, hunset, if_true, hname, hkey]

/-- Underscores at both ends and side by side, with a digit and a capital behind them. -/
theorem derivedKeys_eq_scanKey_underscored :
    let name := "_user__id_2nd_Key_"
    IsAscii name ∧ scanKey name = "UserId2ndKey" ∧
    jsonName name = "UserId2ndKey" ∧
    (∃ f, readField [.member "field"] (textField name none) = .ok f ∧
      f.jsonName = "UserId2ndKey") ∧
    (fieldOf [] "proto3" ⟨name, none, some .string, "", "", false⟩).jsonName = "UserId2ndKey" := by
  intro name
  have hascii : IsAscii name := by decide
  have hscan : scanKey name = "UserId2ndKey" := by decide
  have hread : readField [.member "field"] (textField name none) =
      .ok ⟨name, "UserId2ndKey", "string", false, false⟩ := by decide +kernel
  have hungiven : ∀ key, memberShape (textField name none) "json_name" ≠ some (.text key) := by
    intro key hkey
    cases hkey
  obtain ⟨hkey, hdocument, hcompiled⟩ := derivedKeys_eq_scanKey hascii
  rw [hscan] at hkey hdocument hcompiled
  exact ⟨hascii, hscan, hkey, ⟨_, hread, hdocument _ _ _ hread rfl hungiven⟩,
    hcompiled [] "proto3" _ rfl rfl⟩

/-- Beyond ASCII the two may differ: the sharp s has a capital form that the pass does not know. -/
example : jsonName "a_ß" = "aSS" ∧ scanKey "a_ß" = "aß" := by decide +kernel

end ConnectRpc.Schema
