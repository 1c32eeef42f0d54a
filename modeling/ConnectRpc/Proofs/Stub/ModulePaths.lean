import ConnectRpc.Proofs.Files.Places
import ConnectRpc.Proofs.Stub.UnitNames
import ConnectRpc.Text.Blank

/-!
# Paths of modules

A unit is written below the output root at the path that its name spells, and imported by the same
names without the ending (`moduleNames`). Whatever a schema file is called, each of these names is
one step down: it is not empty and consists of word characters and characters of identifiers, among
which there are neither slashes nor dots (`StepsDown.forbids`). So the path has no root, it never
leads up, and none of its names vanishes (`parse_clientPath`).

The way back is the relative import of the runtime. `resolveImport?` reads such a reference from the
folders that a module lies in, one dot for the innermost and one more for each folder above it. It
leads to the output root with as many dots as the unit's module has names and with no other number
of them (`resolveImport?_dotted_iff`).

What is looked for there need not be what was written there. A statement's names are brought to one
normal form as they are read (`NormalForm`), the names of files are left as they are, and a profile
may call the runtime by an identifier that has another form than its own. So the import finds the
runtime exactly if the name of the runtime is in normal form, as it is in ASCII
(`clientPath_below_root`); a ligature is not (`ligature_not_found`).
-/

namespace ConnectRpc.Stub

open Text

/-! ## Names of modules -/

/-- The names that lead to a unit's module from the output root: the parts of the unit's path, the
last of them without the ending. -/
def moduleNames (path : String) : List String :=
  splitText '/' (String.ofList ((path.toList.dropSuffix? ".py".toList).getD path.toList))

theorem moduleNames_append (front : String) :
    moduleNames (front ++ ".py") = splitText '/' front := by
  have hdrop : (front ++ ".py").toList.dropSuffix? ".py".toList = some front.toList :=
    List.dropSuffix?_eq_some_iff.mpr ⟨".py".toList, String.toList_append, beq_self_eq_true _⟩
  rw [moduleNames, hdrop, Option.getD_some, String.ofList_toList]

theorem moduleNames_runtimePath (p : Profile) :
    moduleNames (runtimePath p) = [p.runtimeModule] := by
  rw [runtimePath, moduleNames_append,
    splitText_of_not_mem (not_mem_slash_of_isIdentifier p.runtimeModule_isIdentifier)]

/-- The folders that a schema file's unit lies in. -/
def unitFolders (fileName : String) : List String :=
  (SlashPath.parse fileName).parent.parts.map moduleName

/-- The name of a schema file's unit as a module. -/
def unitModule (fileName : String) (p : Profile) : String :=
  moduleName (SlashPath.parse fileName).stem ++ p.clientSuffix

theorem clientPathParts_eq_append (fileName : String) (p : Profile) :
    clientPathParts fileName p = unitFolders fileName ++ [unitModule fileName p ++ ".py"] := by
  simp only [clientPathParts, unitFolders, unitModule]

theorem clientPath_eq_append (fileName : String) (p : Profile) :
    clientPath fileName p =
      joinText "/" (unitFolders fileName ++ [unitModule fileName p]) ++ ".py" := by
  rw [clientPath, clientPathParts_eq_append, joinText_concat_append]

/-! ## Steps down -/

/-- The name is one step down: it is not empty, and its characters are word characters or may stand
in identifiers. -/
structure StepsDown (name : String) : Prop where
  ne_empty : name ≠ ""
  spelled : ∀ c ∈ name.toList, isWordChar c = true ∨ isIdentifierContinue c = true

/-- No such name has a character that separates names, ends a suffix or a path, or is blank. -/
theorem StepsDown.forbids {name : String} (h : StepsDown name) :
    ∀ c ∈ name.toList, c ≠ '/' ∧ c ≠ '.' ∧ c ≠ '\x00' ∧ isBlank c = false := by
  have hmarks : ['/', '.', '\x00'].all
      (fun mark => !isWordChar mark && !isIdentifierContinue mark) = true := by decide +kernel
  have hword : blankRanges.apart wordRanges = true := by decide +kernel
  intro c hc
  have hspelled := h.spelled c hc
  have hmark : ∀ mark ∈ ['/', '.', '\x00'], c ≠ mark := by
    rintro mark hmark rfl
    have hneither := List.all_eq_true.mp hmarks c hmark
    rcases hspelled with hspelled | hspelled <;> simp [hspelled] at hneither
  have hblank : isBlank c = false := by
    rcases hspelled with hspelled | hspelled
    · exact Ranges.not_has_of_apart hword hspelled
    · exact isBlank_of_isIdentifierContinue hspelled
  exact ⟨hmark _ (by simp), hmark _ (by simp), hmark _ (by simp), hblank⟩

theorem StepsDown.not_mem_slash {name : String} (h : StepsDown name) : '/' ∉ name.toList :=
  fun hc => (h.forbids _ hc).1 rfl

theorem StepsDown.not_mem_dot {name : String} (h : StepsDown name) : '.' ∉ name.toList :=
  fun hc => (h.forbids _ hc).2.1 rfl

theorem stepsDown_moduleName (name : String) : StepsDown (moduleName name) where
  ne_empty h := toList_moduleName_ne_nil name (by rw [h]; rfl)
  spelled c hc := .inl (isWordChar_of_mem_moduleName c hc)

/-- What may go on in an identifier may follow a step down. -/
theorem StepsDown.append {name suffix : String} (h : StepsDown name)
    (hsuffix : ∀ c ∈ suffix.toList, isIdentifierContinue c = true) :
    StepsDown (name ++ suffix) where
  ne_empty := by simp [h.ne_empty]
  spelled := by
    rw [String.toList_append, List.forall_mem_append]
    exact ⟨h.spelled, fun c hc => .inr (hsuffix c hc)⟩

theorem stepsDown_unitModule (fileName : String) (p : Profile) :
    StepsDown (unitModule fileName p) :=
  (stepsDown_moduleName _).append p.isIdentifierContinue_of_mem_clientSuffix

theorem stepsDown_of_mem_unitFolders {fileName : String} :
    ∀ folder ∈ unitFolders fileName, StepsDown folder := by
  intro folder hfolder
  obtain ⟨name, -, rfl⟩ := List.mem_map.mp hfolder
  exact stepsDown_moduleName name

theorem moduleNames_clientPath (fileName : String) (p : Profile) :
    moduleNames (clientPath fileName p) =
      unitFolders fileName ++ [unitModule fileName p] := by
  rw [clientPath_eq_append, moduleNames_append, splitText_joinText rfl (by simp)]
  intro name hname
  rcases List.mem_append.mp hname with hname | hname
  · exact (stepsDown_of_mem_unitFolders name hname).not_mem_slash
  · rw [List.mem_singleton.mp hname]
    exact (stepsDown_unitModule fileName p).not_mem_slash

theorem stepsDown_of_mem_moduleNames (fileName : String) (p : Profile) :
    ∀ name ∈ moduleNames (clientPath fileName p), StepsDown name := by
  rw [moduleNames_clientPath, List.forall_mem_append]
  exact ⟨stepsDown_of_mem_unitFolders, by simpa using stepsDown_unitModule fileName p⟩

/-! ## The path as a path -/

/-- A name with the ending of units is none of those that paths drop or go up by. -/
theorem append_extension_not_mem (name : String) : name ++ ".py" ∉ ["", ".", ".."] := by
  intro hdots
  have hletter : 'y' ∈ (name ++ ".py").toList := by simp [String.toList_append]
  simp only [List.mem_cons, List.not_mem_nil, or_false] at hdots
  rcases hdots with h | h | h <;> rw [h] at hletter <;> simp at hletter

/-- Every part of a unit's path is read as a name below the one before. -/
theorem ne_of_mem_clientPathParts {fileName : String} {p : Profile} :
    ∀ part ∈ clientPathParts fileName p, part ∉ ["", ".", ".."] := by
  have hstep : ∀ name, StepsDown name → name ∉ ["", ".", ".."] := by
    intro name hname hdots
    simp only [List.mem_cons, List.not_mem_nil, or_false] at hdots
    rcases hdots with rfl | rfl | rfl
    · exact hname.ne_empty rfl
    · exact hname.not_mem_dot (by simp)
    · exact hname.not_mem_dot (by simp)
  rw [clientPathParts_eq_append, List.forall_mem_append]
  refine ⟨fun folder hfolder => hstep folder (stepsDown_of_mem_unitFolders folder hfolder), ?_⟩
  simpa using append_extension_not_mem (unitModule fileName p)

theorem rootOf_eq_empty {cs : List Char} (h : cs.head? ≠ some '/') : SlashPath.rootOf cs = "" := by
  unfold SlashPath.rootOf
  split <;> simp at h ⊢

/-- Read as a path, that of a unit has no root, and none of its parts vanishes. -/
theorem parse_clientPath (fileName : String) (p : Profile) :
    SlashPath.parse (clientPath fileName p) = ⟨"", clientPathParts fileName p⟩ := by
  have hroot : SlashPath.rootOf (clientPath fileName p).toList = "" := by
    refine rootOf_eq_empty fun hslash => ?_
    have hsplit := splitText_clientPath fileName p
    cases hchars : (clientPath fileName p).toList with
    | nil => simp [hchars] at hslash
    | cons c rest =>
      rw [hchars, List.head?_cons, Option.some_inj] at hslash
      rw [splitText, hchars, hslash, pieces, if_pos rfl, List.map_cons] at hsplit
      exact ne_of_mem_clientPathParts "" (hsplit ▸ List.mem_cons_self) (by simp)
  have hnames : (clientPathParts fileName p).filter (fun name => name != "" && name != ".") =
      clientPathParts fileName p := by
    refine List.filter_eq_self.mpr fun part hpart => ?_
    have hdots := ne_of_mem_clientPathParts part hpart
    simp only [List.mem_cons, not_or] at hdots
    simp [hdots]
  rw [SlashPath.parse, hroot, splitText_clientPath, hnames]

/-- Below whatever folder, the unit's place is that of the folder and then the parts of its path. -/
theorem place_append_clientPathParts (folder : SlashPath) (fileName : String) (p : Profile) :
    (folder.append (clientPathParts fileName p)).place =
      ⟨folder.place.fromRoot, folder.place.names ++ clientPathParts fileName p⟩ :=
  folder.place_append fun h => ne_of_mem_clientPathParts _ h (by simp)

/-! ## Relative imports -/

/-- What a relative import names behind its dots. -/
def namedBehindDots (reference : String) : String :=
  String.ofList (reference.toList.dropWhile (· == '.'))

/-- The form to which the names of an import statement are brought before a module is looked for:
one text for all that are the same but for how their characters are encoded. Which text that is for
a name beyond ASCII is left open. -/
structure NormalForm where
  /-- The form of a name. -/
  of : String → String
  of_ascii : ∀ name : String, (∀ c ∈ name.toList, c.toNat < 0x80) → of name = name

/-- The names of the module that a relative import means in a module that lies in the given folders,
the innermost last; the names that the import spells out are brought to their normal form. One dot
stands for that folder and each further one for the folder above. There is no such module where the
dots lead above the output root, and a name without dots is no relative import. -/
def resolveImport? (form : NormalForm) (folders : List String) (reference : String) :
    Option (List String) :=
  match (reference.toList.takeWhile (· == '.')).length with
  | 0 => none
  | up + 1 =>
    if up ≤ folders.length then
      some (folders.take (folders.length - up) ++
        (splitText '.' (namedBehindDots reference)).map form.of)
    else none

/-- A name behind dots. -/
def dotted (dots : Nat) (name : String) : String := String.ofList (List.replicate dots '.') ++ name

theorem dotted_inj {name : String} {dots dots' : Nat} :
    dotted dots name = dotted dots' name ↔ dots = dots' := by
  simp [dotted, String.ofList_inj]

section

variable {name : String}

/-- The dots before a name are those that it is behind. -/
theorem span_dotted (h : '.' ∉ name.toList) (dots : Nat) :
    (dotted dots name).toList.takeWhile (· == '.') = List.replicate dots '.' ∧
      (dotted dots name).toList.dropWhile (· == '.') = name.toList := by
  have hname : name.toList.takeWhile (· == '.') = [] ∧
      name.toList.dropWhile (· == '.') = name.toList := by
    cases hs : name.toList with
    | nil => simp
    | cons c rest =>
      have hc : (c == '.') = false := by
        rw [hs] at h
        simpa using fun heq : c = '.' => h (heq ▸ List.mem_cons_self)
      simp [hc]
  rw [dotted, String.toList_append, String.toList_ofList, List.takeWhile_append_of_pos (by simp),
    List.dropWhile_append_of_pos (by simp), hname.1, hname.2, List.append_nil]
  exact ⟨rfl, rfl⟩

theorem namedBehindDots_dotted (h : '.' ∉ name.toList) (dots : Nat) :
    namedBehindDots (dotted dots name) = name := by
  rw [namedBehindDots, (span_dotted h dots).2, String.ofList_toList]

/-- A name is looked for at the output root with one dot more than there are folders, and with no
other number of dots. -/
theorem resolveImport?_dotted_iff (form : NormalForm) (h : '.' ∉ name.toList)
    (folders : List String) (dots : Nat) :
    resolveImport? form folders (dotted dots name) = some [form.of name] ↔
      dots = folders.length + 1 := by
  rw [resolveImport?, (span_dotted h dots).1, List.length_replicate, namedBehindDots_dotted h,
    splitText_of_not_mem h, List.map_singleton]
  cases dots with
  | zero => simp
  | succ up =>
    by_cases hup : up ≤ folders.length
    · simp only [hup, if_true, Option.some_inj, List.append_left_eq_self,
        ← List.length_eq_zero_iff, List.length_take]
      omega
    · simp only [hup, if_false, reduceCtorEq, false_iff]
      omega

end

theorem Profile.not_mem_dot_runtimeModule (p : Profile) : '.' ∉ p.runtimeModule.toList :=
  not_mem_of_isIdentifier (by decide +kernel) p.runtimeModule_isIdentifier

/-- The runtime is imported through as many dots as the unit's module has names. -/
theorem runtimeImport_eq_dotted (fileName : String) (p : Profile) :
    runtimeImport fileName p =
      dotted (moduleNames (clientPath fileName p)).length p.runtimeModule := by
  have hparts := congrArg List.length (splitText_clientPath fileName p)
  rw [splitText, List.length_map, length_pieces, clientPathParts_eq_append, List.length_append,
    List.length_singleton] at hparts
  rw [runtimeImport, hparts, moduleNames_clientPath, List.length_append, List.length_singleton,
    dotted]

/-- The unit of a schema file lies below the output root, and its import leads back to it: to the
runtime if the runtime's name is in normal form. -/
structure LiesBelowRoot (form : NormalForm) (fileName : String) (p : Profile) : Prop where
  /-- The path is made of the names of the unit's module, and ends as those of modules do. -/
  path_eq : clientPath fileName p = joinText "/" (moduleNames (clientPath fileName p)) ++ ".py"
  named : moduleNames (clientPath fileName p) ≠ []
  stepsDown : ∀ name ∈ moduleNames (clientPath fileName p), StepsDown name
  /-- So nothing in them separates names, ends a suffix or a path, or is blank. -/
  forbidden : ∀ name ∈ moduleNames (clientPath fileName p), ∀ c ∈ name.toList,
    c ≠ '/' ∧ c ≠ '.' ∧ c ≠ '\x00' ∧ isBlank c = false
  /-- No part of the path stays where it is or leads up. -/
  parts : ∀ part ∈ splitText '/' (clientPath fileName p), part ∉ ["", ".", ".."]
  relative : SlashPath.parse (clientPath fileName p) = ⟨"", splitText '/' (clientPath fileName p)⟩
  /-- Below whatever folder the unit is written, its place is that of the folder and then the parts
  of its path. -/
  place : ∀ folder : SlashPath, (folder.append (splitText '/' (clientPath fileName p))).place =
    ⟨folder.place.fromRoot, folder.place.names ++ splitText '/' (clientPath fileName p)⟩
  runtime_at_root : moduleNames (runtimePath p) = [p.runtimeModule]
  /-- From the folders of the unit, its import of the runtime leads to a module in no folder, which
  bears the name of the runtime in its normal form. -/
  import_resolves : resolveImport? form (moduleNames (clientPath fileName p)).dropLast
    (runtimeImport fileName p) = some [form.of p.runtimeModule]
  /-- With more dots or with fewer it would not. -/
  import_unique : ∀ dots, resolveImport? form (moduleNames (clientPath fileName p)).dropLast
    (dotted dots p.runtimeModule) = some [form.of p.runtimeModule] ↔
      dotted dots p.runtimeModule = runtimeImport fileName p
  /-- That module is the runtime's unit exactly if the name of the runtime is in normal form. -/
  import_finds : resolveImport? form (moduleNames (clientPath fileName p)).dropLast
    (runtimeImport fileName p) = some (moduleNames (runtimePath p)) ↔
      form.of p.runtimeModule = p.runtimeModule
  import_finds_ascii : (∀ c ∈ p.runtimeModule.toList, c.toNat < 0x80) →
    resolveImport? form (moduleNames (clientPath fileName p)).dropLast
      (runtimeImport fileName p) = some (moduleNames (runtimePath p))

/-- **Units lie below the output root, and their imports lead back to it**, whatever their schema
files are called and whatever the normal form of names is. -/
theorem clientPath_below_root (form : NormalForm) (fileName : String) (p : Profile) :
    LiesBelowRoot form fileName p := by
  have hnames := moduleNames_clientPath fileName p
  have hsteps := stepsDown_of_mem_moduleNames fileName p
  have hparts := splitText_clientPath fileName p
  have hruntime := moduleNames_runtimePath p
  have himport := runtimeImport_eq_dotted fileName p
  have hlength : (moduleNames (clientPath fileName p)).length =
      (moduleNames (clientPath fileName p)).dropLast.length + 1 := by
    simp [hnames]
  have hresolve := fun dots => resolveImport?_dotted_iff form p.not_mem_dot_runtimeModule
    (moduleNames (clientPath fileName p)).dropLast dots
  have hresolved : resolveImport? form (moduleNames (clientPath fileName p)).dropLast
      (runtimeImport fileName p) = some [form.of p.runtimeModule] := by
    rw [himport]
    exact (hresolve _).mpr hlength
  have hfinds : resolveImport? form (moduleNames (clientPath fileName p)).dropLast
      (runtimeImport fileName p) = some (moduleNames (runtimePath p)) ↔
        form.of p.runtimeModule = p.runtimeModule := by
    rw [hresolved, hruntime, Option.some_inj, List.singleton_inj]
  constructor
  case path_eq =>
    rw [hnames]
    exact clientPath_eq_append fileName p
  case named => simp [hnames]
  case stepsDown => exact hsteps
  case forbidden => exact fun name hname => (hsteps name hname).forbids
  case parts =>
    rw [hparts]
    exact ne_of_mem_clientPathParts
  case relative =>
    rw [hparts]
    exact parse_clientPath fileName p
  case place =>
    rw [hparts]
    exact fun folder => place_append_clientPathParts folder fileName p
  case runtime_at_root => exact hruntime
  case import_resolves => exact hresolved
  case import_unique =>
    intro dots
    rw [himport, dotted_inj, hlength]
    exact hresolve dots
  case import_finds => exact hfinds
  case import_finds_ascii => exact fun hascii => hfinds.mpr (form.of_ascii _ hascii)

/-! ## A ligature -/

/-- The normal form as far as one ligature goes, which it writes as its two letters. -/
def ligatureForm : NormalForm where
  of name := String.ofList (name.toList.flatMap fun c => if c = 'ﬁ' then ['f', 'i'] else [c])
  of_ascii name hascii := by
    have hself : ∀ c ∈ name.toList, (if c = 'ﬁ' then ['f', 'i'] else [c]) = [c] := by
      intro c hc
      have hlt := hascii c hc
      refine if_neg fun hligature => ?_
      rw [hligature] at hlt
      exact absurd hlt (by decide)
    rw [List.flatMap_congr hself, List.flatMap_singleton', String.ofList_toList]

/-- A profile that calls the runtime by a ligature, which is an identifier. -/
def ligatureProfile : Profile where
  clientSuffix := "_connect"
  runtimeModule := "ﬁ"
  baseUrl := none
  runtimeModule_isIdentifier := by decide +kernel
  clientSuffix_isIdentifier := by decide +kernel

/-- The unit of such a runtime bears the ligature in its name and so does the import, which looks
for two letters. -/
theorem ligature_not_found :
    Profile.make ⟨"_connect", "ﬁ", none⟩ = .ok ligatureProfile ∧
      moduleNames (clientPath "a.proto" ligatureProfile) = ["a_connect"] ∧
      runtimeImport "a.proto" ligatureProfile = ".ﬁ" ∧
      moduleNames (runtimePath ligatureProfile) = ["ﬁ"] ∧
      resolveImport? ligatureForm (moduleNames (clientPath "a.proto" ligatureProfile)).dropLast
        (runtimeImport "a.proto" ligatureProfile) = some ["fi"] ∧
      resolveImport? ligatureForm (moduleNames (clientPath "a.proto" ligatureProfile)).dropLast
        (runtimeImport "a.proto" ligatureProfile) ≠
          some (moduleNames (runtimePath ligatureProfile)) := by
  refine ⟨Profile.make_settings ligatureProfile, ?_⟩
  decide +kernel

end ConnectRpc.Stub
