import ConnectRpc.Proofs.Success
import ConnectRpc.Stub.Profile
import Mathlib.Data.List.Perm.Basic
import Mathlib.Tactic.Common

/-!
# Parameters of profiles

A parameter is a list of items; an item that is not refused is an entry, a key with a value. The
settings are those of the last entry for each key, and where there is none the default. Reading goes
through the items and stops at the first refused one; here all items are looked at at once
(`Profile.ofParameter_eq`), so that neither the order of the checks nor the steps of the reading
matter in what follows.

Main statement: when a parameter has no profile, what the settings of its profile are, and that
every profile is read back from its members, in any order and with any blanks between them
(`ofParameter_reads`).
-/

namespace ConnectRpc.Stub

open Text

/-! ## Items and entries -/

/-- The items of a parameter: what stands between commas, trimmed, unless nothing is left. -/
def itemsOf (stretches : List (List Char)) : List (List Char) :=
  (stretches.map trim).filter (· ≠ [])

/-- The keys that mean something. -/
def settingKeys : List String := ["client_suffix", "runtime_module", "base_url"]

/-- What stands in front of the first equals sign. -/
def itemKey (item : List Char) : String := String.ofList (trim (item.takeWhile (· ≠ '=')))

/-- What stands behind the first equals sign. -/
def itemValue (item : List Char) : String :=
  String.ofList (trim ((item.dropWhile (· ≠ '=')).drop 1))

/-- The item has no equals sign, or its key means nothing. -/
def Refused (item : List Char) : Prop := '=' ∉ item ∨ itemKey item ∉ settingKeys

instance (item : List Char) : Decidable (Refused item) := inferInstanceAs (Decidable (_ ∨ _))

/-- The error for a refused item. -/
def refusal (item : List Char) : ProfileError :=
  if '=' ∈ item then .unknownKey (itemKey item) else .noValue (String.ofList item)

/-- The key and the value of an item. -/
def entryOf (item : List Char) : String × String := (itemKey item, itemValue item)

/-- The value of the last entry for a key. -/
def lastValue? (key : String) (entries : List (String × String)) : Option String :=
  ((entries.filter (·.1 = key)).getLast?).map (·.2)

/-- The settings where entries override others. -/
def Settings.overriddenBy (s : Settings) (entries : List (String × String)) : Settings where
  clientSuffix := (lastValue? "client_suffix" entries).getD s.clientSuffix
  runtimeModule := (lastValue? "runtime_module" entries).getD s.runtimeModule
  baseUrl := (lastValue? "base_url" entries).or s.baseUrl

theorem lastValue?_cons (key : String) (entry : String × String)
    (entries : List (String × String)) :
    lastValue? key (entry :: entries) =
      (lastValue? key entries).or (if entry.1 = key then some entry.2 else none) := by
  by_cases hkey : entry.1 = key
  · simp only [lastValue?, List.filter_cons, hkey, decide_true, if_true, List.getLast?_cons]
    cases (entries.filter (·.1 = key)).getLast? <;> rfl
  · simp [lastValue?, hkey]

/-- Entries override one after the other. -/
theorem Settings.overriddenBy_cons (s : Settings) (entry : String × String)
    (entries : List (String × String)) :
    s.overriddenBy (entry :: entries) = (s.overriddenBy [entry]).overriddenBy entries := by
  have hvalue : ∀ key (fallback : String), (lastValue? key (entry :: entries)).getD fallback =
      (lastValue? key entries).getD ((lastValue? key [entry]).getD fallback) := by
    intro key fallback
    rw [lastValue?_cons key entry entries, lastValue?_cons key entry []]
    cases lastValue? key entries <;> rfl
  have hoption : ∀ key (fallback : Option String), (lastValue? key (entry :: entries)).or fallback =
      (lastValue? key entries).or ((lastValue? key [entry]).or fallback) := by
    intro key fallback
    rw [lastValue?_cons key entry entries, lastValue?_cons key entry [], Option.or_assoc]
    rfl
  simp only [Settings.overriddenBy, hvalue "client_suffix", hvalue "runtime_module", hoption]

/-! ## Reading -/

theorem entryOf_append_cons {key : List Char} (h : '=' ∉ key) (value : List Char) :
    entryOf (key ++ '=' :: value) = (String.ofList (trim key), String.ofList (trim value)) := by
  have hkey : ∀ c ∈ key, decide (c ≠ '=') = true := fun c hc =>
    decide_eq_true fun heq => h (heq ▸ hc)
  rw [entryOf, itemKey, itemValue, List.takeWhile_append_of_pos hkey,
    List.dropWhile_append_of_pos hkey]
  simp

theorem itemKey_append_cons {key : List Char} (h : '=' ∉ key) (value : List Char) :
    itemKey (key ++ '=' :: value) = String.ofList (trim key) :=
  congrArg Prod.fst (entryOf_append_cons h value)

theorem Settings.put?_eq (s : Settings) (key value : String) :
    s.put? key value =
      if key ∈ settingKeys then some (s.overriddenBy [(key, value)]) else none := by
  by_cases hsuffix : key = "client_suffix"
  · subst hsuffix
    rfl
  by_cases hruntime : key = "runtime_module"
  · subst hruntime
    rfl
  by_cases hurl : key = "base_url"
  · subst hurl
    rfl
  simp [Settings.put?, settingKeys, hsuffix, hruntime, hurl]

/-- One item of a parameter: it counts for nothing, is refused, or overrides a setting. -/
theorem Settings.item_eq (s : Settings) (stretch : List Char) :
    s.item stretch =
      if trim stretch = [] then .ok s
      else if Refused (trim stretch) then .error (refusal (trim stretch))
      else .ok (s.overriddenBy [entryOf (trim stretch)]) := by
  unfold Settings.item
  generalize trim stretch = item
  by_cases hblank : item = []
  · simp [hblank]
  by_cases hsign : '=' ∈ item
  · obtain ⟨key, value, rfl, hkey⟩ := List.eq_append_cons_of_mem hsign
    simp only [List.isEmpty_iff, hblank, if_false, cutAt_append_cons hkey, s.put?_eq, Refused,
      refusal, hsign, not_true_eq_false, false_or, if_true, itemKey_append_cons hkey,
      entryOf_append_cons hkey]
    by_cases hknown : String.ofList (trim key) ∈ settingKeys
    · simp [hknown]
    · simp [hknown]
  · simp [hblank, cutAt_of_not_mem hsign, Refused, refusal, hsign]

/-- Going through the items: the first refused one decides, and otherwise all entries count. -/
theorem foldlM_item (s : Settings) (stretches : List (List Char)) :
    stretches.foldlM Settings.item s =
      match (itemsOf stretches).find? (Refused ·) with
      | some item => .error (refusal item)
      | none => .ok (s.overriddenBy ((itemsOf stretches).map entryOf)) := by
  induction stretches generalizing s with
  | nil => rfl
  | cons stretch more ih =>
    rw [List.foldlM_cons, s.item_eq]
    by_cases hblank : trim stretch = []
    · have hitems : itemsOf (stretch :: more) = itemsOf more := by simp [itemsOf, hblank]
      rw [if_pos hblank, hitems]
      exact ih s
    have hitems : itemsOf (stretch :: more) = trim stretch :: itemsOf more := by
      simp [itemsOf, hblank]
    rw [if_neg hblank, hitems, List.find?_cons]
    by_cases hrefused : Refused (trim stretch)
    · simp only [hrefused, if_true, decide_true]
      rfl
    · simp only [hrefused, if_false, decide_false, List.map_cons]
      rw [s.overriddenBy_cons (entryOf (trim stretch)) ((itemsOf more).map entryOf)]
      exact ih _

/-- The items of a parameter. -/
def parameterItems (parameter : String) : List (List Char) :=
  itemsOf (pieces ',' parameter.toList)

/-- The settings that a parameter describes, if no item of it is refused. -/
def parameterSettings (parameter : String) : Settings :=
  Settings.default.overriddenBy ((parameterItems parameter).map entryOf)

/-- The first refused item decides; without one the settings do. -/
theorem Profile.ofParameter_eq (parameter : String) :
    Profile.ofParameter parameter =
      match (parameterItems parameter).find? (Refused ·) with
      | some item => .error (refusal item)
      | none => Profile.make (parameterSettings parameter) := by
  rw [Profile.ofParameter, foldlM_item, parameterSettings, parameterItems]
  cases (itemsOf (pieces ',' parameter.toList)).find? (Refused ·) <;> simp only [Except.bind]

theorem Profile.make_ok_iff {s : Settings} {p : Profile} :
    Profile.make s = .ok p ↔ p.settings = s := by
  constructor
  · intro h
    unfold Profile.make at h
    split at h
    · split at h
      · cases h
        rfl
      · cases h
    · cases h
  · rintro rfl
    exact p.make_settings

/-- A profile is read from a parameter exactly if no item is refused and the settings are those of
the profile. -/
theorem Profile.ofParameter_ok_iff {parameter : String} {p : Profile} :
    Profile.ofParameter parameter = .ok p ↔
      (∀ item ∈ parameterItems parameter, ¬ Refused item) ∧
        p.settings = parameterSettings parameter := by
  rw [Profile.ofParameter_eq]
  cases hfind : (parameterItems parameter).find? (Refused ·) with
  | some item =>
    have hitem : Refused item := by simpa using List.find?_some hfind
    refine ⟨fun h => ?_, fun h => absurd hitem (h.1 item (List.mem_of_find?_eq_some hfind))⟩
    cases h
  | none =>
    have hnone : ∀ item ∈ parameterItems parameter, ¬ Refused item := by
      simpa using List.find?_eq_none.mp hfind
    rw [Profile.make_ok_iff]
    exact ⟨fun h => ⟨hnone, h⟩, fun h => h.2⟩

/-- The settings can name modules. -/
def Settings.Usable (s : Settings) : Prop :=
  isIdentifier s.runtimeModule = true ∧ isIdentifier ("x" ++ s.clientSuffix) = true

theorem Settings.usable_iff {s : Settings} : s.Usable ↔ ∃ p : Profile, p.settings = s := by
  constructor
  · rintro ⟨hruntime, hsuffix⟩
    exact ⟨⟨s.clientSuffix, s.runtimeModule, s.baseUrl, hruntime, hsuffix⟩, rfl⟩
  · rintro ⟨p, rfl⟩
    exact ⟨p.runtimeModule_isIdentifier, p.clientSuffix_isIdentifier⟩

theorem Profile.ofParameter_error_iff {parameter : String} :
    (∃ e, Profile.ofParameter parameter = .error e) ↔
      (∃ item ∈ parameterItems parameter, Refused item) ∨
        ¬ (parameterSettings parameter).Usable := by
  have hok : (∃ p, Profile.ofParameter parameter = .ok p) ↔
      (∀ item ∈ parameterItems parameter, ¬ Refused item) ∧
        ∃ p : Profile, p.settings = parameterSettings parameter := by
    simp only [Profile.ofParameter_ok_iff, exists_and_left]
  rw [exists_error_iff, hok, Settings.usable_iff, not_and_or]
  simp

/-! ## Writing -/

/-- The members of a profile with their keys; without a base URL there is none for it. -/
def Profile.members (p : Profile) : List (String × String) :=
  [("client_suffix", p.clientSuffix), ("runtime_module", p.runtimeModule)] ++
    p.baseUrl.toList.map (("base_url", ·))

/-- The characters are all blank. -/
def AreBlank (cs : List Char) : Prop := ∀ c ∈ cs, isBlank c = true

instance (cs : List Char) : Decidable (AreBlank cs) :=
  List.decidableBAll (fun c => isBlank c = true) cs

/-- A stretch that holds the key and the value of an entry, with an equals sign between them and
blanks on all sides. -/
inductive Spells (entry : String × String) : List Char → Prop where
  | intro (before behindKey beforeValue behind : List Char)
      (hbefore : AreBlank before) (hbehindKey : AreBlank behindKey)
      (hbeforeValue : AreBlank beforeValue) (hbehind : AreBlank behind) :
      Spells entry (before ++ entry.1.toList ++ behindKey ++
        '=' :: (beforeValue ++ entry.2.toList ++ behind))

/-- The stretches spell the entries one after the other; any number of them are blank. -/
inductive SpellsAll : List (String × String) → List (List Char) → Prop where
  | nil : SpellsAll [] []
  | blank {entries : List (String × String)} {stretch : List Char} {more : List (List Char)}
      (h : AreBlank stretch) (hmore : SpellsAll entries more) : SpellsAll entries (stretch :: more)
  | entry {entry : String × String} {entries : List (String × String)} {stretch : List Char}
      {more : List (List Char)} (h : Spells entry stretch) (hmore : SpellsAll entries more) :
      SpellsAll (entry :: entries) (stretch :: more)

/-- The text has no comma, and no blanks at its ends. -/
structure PlainText (text : List Char) : Prop where
  trim_eq : trim text = text
  not_mem_comma : ',' ∉ text

theorem isBlank_equalsSign : isBlank '=' = false := by decide

theorem isBlank_comma : isBlank ',' = false := by decide

theorem AreBlank.not_mem {cs : List Char} (h : AreBlank cs) {c : Char} (hc : isBlank c = false) :
    c ∉ cs := by
  intro hmem
  rw [h c hmem] at hc
  cases hc

theorem spec_of_mem_settingKeys {key : String} (h : key ∈ settingKeys) :
    trim key.toList = key.toList ∧ '=' ∉ key.toList ∧ ',' ∉ key.toList := by
  have hall : ∀ key ∈ settingKeys,
      trim key.toList = key.toList ∧ '=' ∉ key.toList ∧ ',' ∉ key.toList := by decide
  exact hall key h

section

variable {entry : String × String} {stretch : List Char} (h : Spells entry stretch)
  (hkey : entry.1 ∈ settingKeys) (hvalue : PlainText entry.2.toList)

include h hkey hvalue

theorem Spells.not_mem_comma : ',' ∉ stretch := by
  obtain ⟨before, behindKey, beforeValue, behind, hbefore, hbehindKey, hbeforeValue, hbehind⟩ := h
  simp only [List.mem_append, List.mem_cons, hbefore.not_mem isBlank_comma,
    hbehindKey.not_mem isBlank_comma, hbeforeValue.not_mem isBlank_comma,
    hbehind.not_mem isBlank_comma, (spec_of_mem_settingKeys hkey).2.2, hvalue.not_mem_comma,
    or_self, or_false, false_or]
  decide

/-- What spells an entry is an item with this entry. -/
theorem Spells.item : '=' ∈ trim stretch ∧ entryOf (trim stretch) = entry := by
  obtain ⟨before, behindKey, beforeValue, behind, hbefore, hbehindKey, hbeforeValue, hbehind⟩ := h
  obtain ⟨htrim, hsign, -⟩ := spec_of_mem_settingKeys hkey
  have hfront : '=' ∉ trimStart (before ++ entry.1.toList ++ behindKey) := by
    intro hmem
    have hmem := (List.dropWhile_sublist _).subset hmem
    simp only [List.mem_append, hsign, hbefore.not_mem isBlank_equalsSign,
      hbehindKey.not_mem isBlank_equalsSign, or_self] at hmem
  rw [trim_append_cons isBlank_equalsSign]
  refine ⟨List.mem_append_right _ List.mem_cons_self, ?_⟩
  rw [entryOf_append_cons hfront, trim_trimStart, trim_append_append hbefore hbehindKey, htrim,
    trim_trimEnd, trim_append_append hbeforeValue hbehind, hvalue.trim_eq, String.ofList_toList,
    String.ofList_toList]

theorem Spells.not_refused : ¬ Refused (trim stretch) := by
  obtain ⟨hsign, hentry⟩ := h.item hkey hvalue
  have hitemKey : itemKey (trim stretch) = entry.1 := congrArg Prod.fst hentry
  rintro (hnone | hunknown)
  · exact hnone hsign
  · exact hunknown (hitemKey ▸ hkey)

theorem Spells.itemsOf_cons (more : List (List Char)) :
    itemsOf (stretch :: more) = trim stretch :: itemsOf more := by
  have hne : trim stretch ≠ [] := List.ne_nil_of_mem (h.item hkey hvalue).1
  simp [itemsOf, hne]

end

/-- Stretches that spell entries have no commas, their items are not refused, and the entries are
those of the items. -/
theorem SpellsAll.items {entries : List (String × String)} {stretches : List (List Char)}
    (h : SpellsAll entries stretches)
    (hentries : ∀ entry ∈ entries, entry.1 ∈ settingKeys ∧ PlainText entry.2.toList) :
    (∀ stretch ∈ stretches, ',' ∉ stretch) ∧
    (∀ item ∈ itemsOf stretches, ¬ Refused item) ∧
    (itemsOf stretches).map entryOf = entries := by
  induction h with
  | nil => simp [itemsOf]
  | @blank entries stretch more hblank _ ih =>
    obtain ⟨hcomma, hrefused, hmap⟩ := ih hentries
    have hitems : itemsOf (stretch :: more) = itemsOf more := by
      simp [itemsOf, trim_of_blank hblank]
    rw [hitems]
    exact ⟨List.forall_mem_cons.mpr ⟨hblank.not_mem isBlank_comma, hcomma⟩, hrefused, hmap⟩
  | @entry entry entries stretch more hspells _ ih =>
    obtain ⟨⟨hkey, hvalue⟩, hmore⟩ := List.forall_mem_cons.mp hentries
    obtain ⟨hcomma, hrefused, hmap⟩ := ih hmore
    rw [hspells.itemsOf_cons hkey hvalue, List.map_cons, hmap, (hspells.item hkey hvalue).2]
    exact ⟨List.forall_mem_cons.mpr ⟨hspells.not_mem_comma hkey hvalue, hcomma⟩,
      List.forall_mem_cons.mpr ⟨hspells.not_refused hkey hvalue, hrefused⟩, rfl⟩

/-! ## Members of a profile -/

theorem plainText_of_identifier {text : List Char}
    (h : ∀ c ∈ text, isIdentifierContinue c = true) : PlainText text where
  trim_eq := trim_of_not_blank fun c hc => isBlank_of_isIdentifierContinue (h c hc)
  not_mem_comma := by
    have hcomma : isIdentifierContinue ',' = false := by decide +kernel
    intro hmem
    rw [h _ hmem] at hcomma
    cases hcomma

/-- Only the base URL can be something else than plain text. -/
theorem Profile.plainText_of_mem_members {p : Profile}
    (hurl : ∀ url ∈ p.baseUrl, PlainText url.toList) :
    ∀ entry ∈ p.members, entry.1 ∈ settingKeys ∧ PlainText entry.2.toList := by
  intro entry hentry
  rcases List.mem_append.mp hentry with hentry | hentry
  · rcases List.mem_pair.mp hentry with rfl | rfl
    · exact ⟨by simp [settingKeys],
        plainText_of_identifier p.isIdentifierContinue_of_mem_clientSuffix⟩
    · exact ⟨by simp [settingKeys],
        plainText_of_identifier (isIdentifierContinue_of_mem p.runtimeModule_isIdentifier)⟩
  · obtain ⟨url, hmem, rfl⟩ := List.mem_map.mp hentry
    exact ⟨by simp [settingKeys], hurl url (Option.mem_toList.mp hmem)⟩

theorem Profile.nodup_keys_members (p : Profile) : (p.members.map (·.1)).Nodup := by
  cases hurl : p.baseUrl <;> simp [Profile.members, hurl]

theorem Profile.overriddenBy_members (p : Profile) :
    Settings.default.overriddenBy p.members = p.settings := by
  cases hurl : p.baseUrl <;>
    simp [Profile.members, hurl, Settings.overriddenBy, lastValue?, Profile.settings,
      Settings.default]

/-- At most one entry is for a key, if no two entries have the same one. -/
theorem length_filter_key_le_one {entries : List (String × String)}
    (h : (entries.map (·.1)).Nodup) (key : String) :
    (entries.filter (·.1 = key)).length ≤ 1 := by
  have hsub : ((entries.filter (·.1 = key)).map (·.1)).Nodup :=
    h.sublist (List.filter_sublist.map _)
  have hkeys : (entries.filter (·.1 = key)).map (·.1) =
      List.replicate (entries.filter (·.1 = key)).length key := by
    refine List.eq_replicate_iff.mpr ⟨List.length_map _, ?_⟩
    simp
  rw [hkeys, List.nodup_replicate] at hsub
  exact hsub

/-- The order of entries is of no importance where no two have the same key. -/
theorem lastValue?_perm {entries entries' : List (String × String)} (h : entries.Perm entries')
    (hnodup : (entries'.map (·.1)).Nodup) (key : String) :
    lastValue? key entries = lastValue? key entries' := by
  have hfilter := h.filter (·.1 = key)
  have hlength := length_filter_key_le_one hnodup key
  have heq : entries.filter (·.1 = key) = entries'.filter (·.1 = key) := by
    generalize entries'.filter (·.1 = key) = found at hfilter hlength
    cases found with
    | nil => exact List.perm_nil.mp hfilter
    | cons entry rest =>
      obtain rfl : rest = [] := by simpa using hlength
      exact List.perm_singleton.mp hfilter
  rw [lastValue?, lastValue?, heq]

theorem Settings.overriddenBy_perm (s : Settings) {entries entries' : List (String × String)}
    (h : entries.Perm entries') (hnodup : (entries'.map (·.1)).Nodup) :
    s.overriddenBy entries = s.overriddenBy entries' := by
  simp only [Settings.overriddenBy, lastValue?_perm h hnodup]

/-- A profile is read back from its members. -/
theorem Profile.ofParameter_of_spellsAll {p : Profile} {members : List (String × String)}
    {stretches : List (List Char)} {parameter : String}
    (hurl : ∀ url ∈ p.baseUrl, PlainText url.toList) (hmembers : members.Perm p.members)
    (hspells : SpellsAll members stretches)
    (hparameter : parameter.toList = joinPieces ',' stretches) :
    Profile.ofParameter parameter = .ok p := by
  have hentries : ∀ entry ∈ members, entry.1 ∈ settingKeys ∧ PlainText entry.2.toList :=
    fun entry hentry => plainText_of_mem_members hurl entry (hmembers.subset hentry)
  obtain ⟨hcomma, hrefused, hmap⟩ := hspells.items hentries
  have hitems : parameterItems parameter = itemsOf stretches := by
    rw [parameterItems, hparameter]
    cases stretches with
    | nil => rfl
    | cons stretch more => rw [pieces_joinPieces (by simp) hcomma]
  rw [Profile.ofParameter_ok_iff, parameterSettings, hitems, hmap,
    Settings.overriddenBy_perm _ hmembers p.nodup_keys_members, p.overriddenBy_members]
  exact ⟨hrefused, rfl⟩

/-- **Parameters of profiles.** There is no profile exactly if some item has no equals sign or a key
that means nothing, or the last entries for the two names of modules cannot be used in such names.
Otherwise each setting is the value of the last entry for its key, or the default. And whatever
profile it is, the parameter that spells its members in some order, with blanks and blank items
wherever they may stand, is read as this profile; only of the base URL has to be asked that it is
plain text. -/
theorem ofParameter_reads (parameter : String) :
    ((∃ e, Profile.ofParameter parameter = .error e) ↔
      (∃ item ∈ parameterItems parameter, Refused item) ∨
        ¬ (parameterSettings parameter).Usable) ∧
    (∀ p, Profile.ofParameter parameter = .ok p → p.settings = parameterSettings parameter) ∧
    ∀ (p : Profile) (members : List (String × String)) (stretches : List (List Char)),
      (∀ url ∈ p.baseUrl, PlainText url.toList) → members.Perm p.members →
      SpellsAll members stretches → parameter.toList = joinPieces ',' stretches →
      Profile.ofParameter parameter = .ok p :=
  ⟨Profile.ofParameter_error_iff, fun _ h => (Profile.ofParameter_ok_iff.mp h).2,
    fun _ _ _ => Profile.ofParameter_of_spellsAll⟩

/-- A profile whose base URL has an equals sign, from its members in another order with blanks and
blank items between them. -/
theorem ofParameter_reads_spread :
    let p : Profile :=
      ⟨"_api", "shared", some "http://api/?a=b", by decide +kernel, by decide +kernel⟩
    let parameter := "\tbase_url = http://api/?a=b ,, runtime_module=shared ,client_suffix =_api"
    Profile.ofParameter parameter = .ok p ∧ p.settings = parameterSettings parameter := by
  intro p parameter
  have hspells : SpellsAll
      [("base_url", "http://api/?a=b"), ("runtime_module", "shared"), ("client_suffix", "_api")]
      ["\tbase_url = http://api/?a=b ".toList, [], " runtime_module=shared ".toList,
        "client_suffix =_api".toList] :=
    .entry (.intro ['\t'] [' '] [' '] [' '] (by decide) (by decide) (by decide) (by decide)) <|
    .blank (by decide) <|
    .entry (.intro [' '] [] [] [' '] (by decide) (by decide) (by decide) (by decide)) <|
    .entry (.intro [] [' '] [] [] (by decide) (by decide) (by decide) (by decide)) .nil
  have hmembers : [("base_url", "http://api/?a=b"), ("runtime_module", "shared"),
      ("client_suffix", "_api")].Perm p.members := by
    decide
  have hurl : ∀ url ∈ p.baseUrl, PlainText url.toList := by
    intro url hmem
    obtain rfl : "http://api/?a=b" = url := Option.some.inj hmem
    exact ⟨by decide, by decide⟩
  have hread := (ofParameter_reads parameter).2.2 p _ _ hurl hmembers hspells (by decide)
  exact ⟨hread, (ofParameter_reads parameter).2.1 p hread⟩

end ConnectRpc.Stub
