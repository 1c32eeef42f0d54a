import ConnectRpc.Proofs.Stub.Shapes
import ConnectRpc.Proofs.Stub.TypeNames
import Mathlib.Data.List.Basic

/-!
# Names at module level

A unit binds names at its margin: those that its head imports, one for each message shape and one
for each class (`boundNames_of`). Shapes have distinct names, none of them imported, and the name of
a class is never that of a builtin. Everything else can meet: the names of classes are neither kept
apart from each other nor escaped, and a message may be called as a builtin.

Main statement: the names are pairwise distinct and none is a builtin that the unit uses, exactly if
no two services have one class name, none is called `Connect` or `connect`, no message has the type
name of a class, and none is called as one of these builtins (`scopeKept_iff`). Distinct names of
services are not enough (`connect_shadows_base`).
-/

namespace ConnectRpc.Stub

open Schema Text

/-! ## What a line binds -/

/-- The names that an import lists, from what follows `from` in its line. -/
def listedNames (cs : List Char) : List String :=
  (splitText ',' (String.ofList ((cs.dropWhile (· != ' ')).drop " import ".length))).map trimmed

/-- The names that a line at the margin binds: an import those it lists, the head of a class its
name, and an assignment what it assigns to. -/
def boundAtMargin (line : List Char) : List String :=
  match line.dropPrefix? "from ".toList with
  | some rest => listedNames rest
  | none =>
    let name? :=
      match line.dropPrefix? "class ".toList with
      | some rest => rest.dropSuffix? "(ConnectClient):".toList
      | none => line.dropSuffix? " = TypedDict(".toList
    (name?.map String.ofList).toList

/-- The line is empty or begins with no name: it is set in, a remark, or the end of an
expression. -/
def BindsNothing (line : String) : Prop := ∀ c ∈ line.toList.head?, c ∈ [' ', '#', ')']

instance (line : String) : Decidable (BindsNothing line) :=
  Option.decidableForallMem line.toList.head?

/-- The names that a line binds at module level. -/
def boundBy (line : String) : List String :=
  if BindsNothing line then [] else boundAtMargin line.toList

/-- The names that a unit binds at module level. -/
def ClientView.boundNames (v : ClientView) : List String := v.lines.flatMap boundBy

theorem flatMap_boundBy_of_bindsNothing {lines : List String}
    (h : ∀ line ∈ lines, BindsNothing line) : lines.flatMap boundBy = [] :=
  List.flatMap_eq_nil_iff.mpr fun line hline => if_pos (h line hline)

/-- A block of lines below two empty ones binds what its first line does, if the others bind
nothing. -/
theorem flatMap_boundBy_block {first : String} {rest : List String}
    (h : ∀ line ∈ rest, BindsNothing line) :
    ("" :: "" :: first :: rest).flatMap boundBy = boundBy first := by
  have hempty : boundBy "" = [] := if_pos (by simp [BindsNothing])
  rw [List.flatMap_cons, List.flatMap_cons, List.flatMap_cons, hempty,
    flatMap_boundBy_of_bindsNothing h, List.append_nil, List.nil_append, List.nil_append]

theorem boundBy_import {path : String} (hpath : ' ' ∉ path.toList) (listed : String) :
    boundBy ("from " ++ path ++ " import " ++ listed) = (splitText ',' listed).map trimmed := by
  have hline : ("from " ++ path ++ " import " ++ listed).toList =
      "from ".toList ++ (path.toList ++ (" import ".toList ++ listed.toList)) := by
    simp only [String.toList_append, List.append_assoc]
  have hdrop : (path.toList ++ (" import ".toList ++ listed.toList)).dropWhile (· != ' ') =
      " import ".toList ++ listed.toList := by
    rw [List.dropWhile_append_of_pos]
    · rfl
    · intro c hc
      simpa using fun heq : c = ' ' => hpath (heq ▸ hc)
  have hmargin : ¬ BindsNothing ("from " ++ path ++ " import " ++ listed) := by
    simp [BindsNothing]
  rw [boundBy, if_neg hmargin, boundAtMargin, hline,
    List.dropPrefix?_append_of_beq _ (beq_self_eq_true _)]
  dsimp only
  have hlisted : (" import ".toList ++ listed.toList).drop " import ".length = listed.toList := rfl
  rw [listedNames, hdrop, hlisted, String.ofList_toList]

theorem boundBy_class (name : String) :
    boundBy ("class " ++ name ++ "(ConnectClient):") = [name] := by
  have hline : ("class " ++ name ++ "(ConnectClient):").toList =
      "class ".toList ++ (name.toList ++ "(ConnectClient):".toList) := by
    simp only [String.toList_append, List.append_assoc]
  have hmargin : ¬ BindsNothing ("class " ++ name ++ "(ConnectClient):") := by
    simp [BindsNothing]
  have hfrom : ("class ".toList ++ (name.toList ++ "(ConnectClient):".toList)).dropPrefix?
      "from ".toList = none := by
    rfl
  have hname : (name.toList ++ "(ConnectClient):".toList).dropSuffix? "(ConnectClient):".toList =
      some name.toList :=
    List.dropSuffix?_eq_some_iff.mpr ⟨_, rfl, beq_self_eq_true _⟩
  rw [boundBy, if_neg hmargin, boundAtMargin, hline, hfrom,
    List.dropPrefix?_append_of_beq _ (beq_self_eq_true _)]
  dsimp only
  rw [hname]
  simp

/-- A line begins with another word than its first. -/
theorem dropPrefix?_word {word first : List Char} (hword : ' ' ∉ word) (hfirst : ' ' ∉ first)
    (hne : first ≠ word) (rest : List Char) :
    (first ++ ' ' :: rest).dropPrefix? (word ++ [' ']) = none := by
  refine Option.eq_none_iff_forall_ne_some.mpr fun after hafter => hne ?_
  obtain ⟨start, hline, hstart⟩ := List.dropPrefix?_eq_some_iff.mp hafter
  have hpieces := congrArg (pieces ' ') hline
  rw [beq_iff_eq.mp hstart, List.append_assoc, List.singleton_append,
    pieces_append_cons hfirst, pieces_append_cons hword] at hpieces
  exact List.head_eq_of_cons_eq hpieces

theorem boundBy_shape (type : String) :
    boundBy (typeName type ++ " = TypedDict(") = [typeName type] := by
  have hword : ∀ c ∈ (typeName type).toList, c ∉ [' ', '#', ')'] := by
    intro c hc hmem
    have hnot : [' ', '#', ')'].all (!isWordChar ·) = true := by decide +kernel
    have hyes := isWordChar_of_mem_typeName c hc
    simpa [hyes] using List.all_eq_true.mp hnot c hmem
  have hspace : ' ' ∉ (typeName type).toList := fun h => hword ' ' h (by decide)
  have hkeyword := typeName_not_mem_keywords type
  have hmargin : ¬ BindsNothing (typeName type ++ " = TypedDict(") := by
    intro h
    cases htype : (typeName type).toList with
    | nil => exact toList_typeName_ne_nil type htype
    | cons c rest =>
      refine hword c (by simp [htype]) (h c ?_)
      simp [htype]
  have hother : ∀ word ∈ keywords, ' ' ∉ word.toList →
      ((typeName type).toList ++ " = TypedDict(".toList).dropPrefix? (word.toList ++ [' ']) =
        none := by
    intro word hmem hwhole
    refine dropPrefix?_word hwhole hspace (fun heq => hkeyword ?_) _
    rwa [String.toList_inj.mp heq]
  have hname : ((typeName type).toList ++ " = TypedDict(".toList).dropSuffix?
      " = TypedDict(".toList = some (typeName type).toList :=
    List.dropSuffix?_eq_some_iff.mpr ⟨_, rfl, beq_self_eq_true _⟩
  have hfrom : "from ".toList = "from".toList ++ [' '] := rfl
  have hclass : "class ".toList = "class".toList ++ [' '] := rfl
  rw [boundBy, if_neg hmargin, boundAtMargin, String.toList_append, hfrom, hclass,
    hother "from" (by decide) (by decide), hother "class" (by decide) (by decide)]
  dsimp only
  rw [hname]
  simp

/-! ## What a unit binds -/

/-- The names that a unit imports, as they stand in its head. -/
def headNames : List String :=
  ["annotations", "Sequence", "Any", "TypedDict", "CallResult", "CancelToken", "ConnectClient",
   "signal"]

theorem not_mem_space_runtimeImport (fileName : String) (p : Profile) :
    ' ' ∉ (runtimeImport fileName p).toList := by
  have hmodule : ' ' ∉ p.runtimeModule.toList :=
    not_mem_of_isIdentifier (by decide +kernel) p.runtimeModule_isIdentifier
  rw [runtimeImport, String.toList_append, String.toList_ofList]
  simp [hmodule]

theorem boundBy_headLines {v : ClientView} (h : ' ' ∉ v.runtimeImport.toList) :
    (headLines v).flatMap boundBy = headNames := by
  have hremarks : ∀ line ∈ ["# Generated from " ++ v.fileName,
      "# Connect client for " ++ joinText ", " (v.services.map (·.className)),
      "# Auto-generated - DO NOT EDIT", "# ruff: noqa: E501, E712"], BindsNothing line := by
    simp [BindsNothing]
  have himports : ["from __future__ import annotations", "",
      "from collections.abc import Sequence", "from typing import Any, TypedDict", ""].flatMap
      boundBy = ["annotations", "Sequence", "Any", "TypedDict"] := by
    decide +kernel
  have hlines : headLines v = ["# Generated from " ++ v.fileName,
      "# Connect client for " ++ joinText ", " (v.services.map (·.className)),
      "# Auto-generated - DO NOT EDIT", "# ruff: noqa: E501, E712"] ++
      ["from __future__ import annotations", "",
      "from collections.abc import Sequence", "from typing import Any, TypedDict", ""] ++
      ["from " ++ v.runtimeImport ++ " import " ++
        "CallResult, CancelToken, ConnectClient, signal"] := by
    have hlast : " import CallResult, CancelToken, ConnectClient, signal" =
        " import " ++ "CallResult, CancelToken, ConnectClient, signal" := rfl
    rw [headLines, hlast, ← String.append_assoc]
    rfl
  rw [hlines, List.flatMap_append, List.flatMap_append, flatMap_boundBy_of_bindsNothing hremarks,
    himports, List.flatMap_singleton, boundBy_import h]
  decide +kernel

theorem boundBy_messageLines {m : MessageView}
    (hname : boundBy (m.name ++ " = TypedDict(") = [m.name]) :
    m.lines.flatMap boundBy = [m.name] := by
  have hrest : ∀ line ∈ ["    " ++ quote m.name ++ ",", "    \x7b"] ++
      m.fields.map (fun field => "        " ++ quote field.1 ++ ": " ++ field.2 ++ ",") ++
      ["    \x7d,", "    total=False,", ")"], BindsNothing line := by
    simp only [List.forall_mem_append, List.forall_mem_map]
    refine ⟨⟨?_, fun field _ => ?_⟩, ?_⟩
    all_goals simp [BindsNothing]
  have hlines : m.lines = "" :: "" :: (m.name ++ " = TypedDict(") ::
      (["    " ++ quote m.name ++ ",", "    \x7b"] ++
        m.fields.map (fun field => "        " ++ quote field.1 ++ ": " ++ field.2 ++ ",") ++
        ["    \x7d,", "    total=False,", ")"]) := rfl
  rw [hlines, flatMap_boundBy_block hrest, hname]

theorem bindsNothing_fieldLines (f : FieldView) : ∀ line ∈ f.lines, BindsNothing line := by
  unfold FieldView.lines
  dsimp only
  split <;> simp [BindsNothing]

theorem bindsNothing_methodLines (path : String) (m : MethodView) :
    ∀ line ∈ m.lines path, BindsNothing line := by
  simp only [MethodView.lines, List.forall_mem_append, List.forall_mem_map, List.forall_mem_flatMap,
    List.forall_mem_cons, List.not_mem_nil, false_imp_iff, implies_true, and_true]
  refine ⟨⟨⟨⟨?_, fun param _ => ?_⟩, ?_⟩, fun f _ => bindsNothing_fieldLines f⟩, ?_⟩
  all_goals simp [BindsNothing]

theorem bindsNothing_baseUrlLines (baseUrl : Option String) :
    ∀ line ∈ baseUrlLines baseUrl, BindsNothing line := by
  unfold baseUrlLines
  split
  · simp
  · split <;> simp [BindsNothing]

theorem boundBy_serviceLines (baseUrl : Option String) (s : ServiceView) :
    (s.lines baseUrl).flatMap boundBy = [s.className] := by
  have hrest : ∀ line ∈ ["    \"\"\"Connect client for ``" ++ s.path ++ "``.\"\"\"", ""] ++
      baseUrlLines baseUrl ++ (s.methods.map fun m => "    " ++ m.signalName ++ " = signal()") ++
      s.methods.flatMap (MethodView.lines s.path), BindsNothing line := by
    simp only [List.forall_mem_append, List.forall_mem_map, List.forall_mem_flatMap]
    refine ⟨⟨⟨?_, bindsNothing_baseUrlLines baseUrl⟩, fun m _ => ?_⟩,
      fun m _ => bindsNothing_methodLines s.path m⟩
    all_goals simp [BindsNothing]
  have hlines : s.lines baseUrl = "" :: "" :: ("class " ++ s.className ++ "(ConnectClient):") ::
      (["    \"\"\"Connect client for ``" ++ s.path ++ "``.\"\"\"", ""] ++
      baseUrlLines baseUrl ++ (s.methods.map fun m => "    " ++ m.signalName ++ " = signal()") ++
      s.methods.flatMap (MethodView.lines s.path)) := rfl
  rw [hlines, flatMap_boundBy_block hrest, boundBy_class]

/-- The types of the messages that the methods of a file mention. -/
def messageTypes (file : File) : List String :=
  (file.services.flatMap Service.methods).flatMap fun m => [m.inputType, m.outputType]

theorem name_mentionedShapes (file : File) :
    (mentionedShapes file).map MessageView.name = (messageTypes file).map typeName := by
  simp only [mentionedShapes, messageTypes, List.map_flatMap, methodMessages, List.map_cons,
    List.map_nil, MessageView.name_of]

section

variable (file : File) (p : Profile)

theorem mem_name_messages_iff {name : String} :
    name ∈ (ClientView.of file p).messages.map MessageView.name ↔
      ∃ type ∈ messageTypes file, typeName type = name := by
  rw [mem_name_messages_of_iff, name_mentionedShapes, List.mem_map]

/-- The names that a unit binds: those of its head, of its shapes and of its classes. -/
theorem boundNames_of : (ClientView.of file p).boundNames =
    headNames ++ (ClientView.of file p).messages.map MessageView.name ++
      file.services.map fun s => className s.name := by
  have hshapes : (ClientView.of file p).messages.flatMap (fun m => m.lines.flatMap boundBy) =
      (ClientView.of file p).messages.map MessageView.name := by
    rw [← List.flatMap_pure_eq_map]
    refine List.flatMap_congr fun m hm => ?_
    obtain ⟨type, -, htype⟩ :=
      (mem_name_messages_iff file p).mp (List.mem_map_of_mem hm)
    refine boundBy_messageLines ?_
    rw [← htype]
    exact boundBy_shape type
  have hclasses : (ClientView.of file p).services.flatMap (fun s =>
      (s.lines (ClientView.of file p).baseUrl).flatMap boundBy) =
      file.services.map fun s => className s.name := by
    simp only [boundBy_serviceLines, ← List.map_eq_flatMap]
    exact List.map_map
  have hhead : (headLines (ClientView.of file p)).flatMap boundBy = headNames :=
    boundBy_headLines (not_mem_space_runtimeImport file.name p)
  rw [ClientView.boundNames, ClientView.lines, List.flatMap_append, List.flatMap_append,
    List.flatMap_assoc, List.flatMap_assoc, hshapes, hclasses, hhead]

end

/-! ## When the names are kept apart -/

/-- The builtins that a unit's text relies on. -/
def usedBuiltins : List String := ["list", "dict", "str", "int", "float", "bool"]

/-- No name that a unit binds at module level shadows another of them, or a builtin that the unit
uses. -/
structure ScopeKept (v : ClientView) : Prop where
  /-- The names are pairwise distinct. -/
  apart : v.boundNames.Nodup
  /-- None is a builtin that the unit uses. -/
  builtins : ∀ name ∈ v.boundNames, name ∉ usedBuiltins

/-- The names of a schema file keep what its unit binds apart. -/
structure NamesApart (file : File) : Prop where
  /-- Services differ in more than the form of their first letter. -/
  services : file.services.Pairwise fun s t => capitalise s.name ≠ capitalise t.name
  /-- No service has the name that makes its class that of the runtime. -/
  base : ∀ s ∈ file.services, s.name ≠ "Connect" ∧ s.name ≠ "connect"
  /-- No message has the type name of a class. -/
  shapes : ∀ type ∈ messageTypes file, ∀ s ∈ file.services, typeName type ≠ className s.name
  /-- No message is called as a builtin. -/
  builtins : ∀ type ∈ messageTypes file, type ∉ usedBuiltins

theorem mem_headNames_iff {name : String} : name ∈ headNames ↔ name ∈ importedNames := by
  have hforth : ∀ name ∈ headNames, name ∈ importedNames := by decide
  have hback : ∀ name ∈ importedNames, name ∈ headNames := by decide
  exact ⟨hforth name, hback name⟩

theorem className_not_mem_usedBuiltins (s : String) : className s ∉ usedBuiltins := by
  have hnone : ∀ name ∈ usedBuiltins, "Client".toList.isSuffixOf name.toList = false := by
    decide
  intro h
  have hsuffix := isSuffixOf_className s
  rw [hnone _ h] at hsuffix
  cases hsuffix

theorem typeName_mem_usedBuiltins_iff {type : String} :
    typeName type ∈ usedBuiltins ↔ type ∈ usedBuiltins := by
  have hplain : ∀ name ∈ usedBuiltins, '_' ∉ name.toList := by decide
  have hself : ∀ name ∈ usedBuiltins, typeName name = name := by decide
  constructor
  · intro h
    rwa [eq_of_typeName_eq (hplain _ h) rfl]
  · intro h
    rwa [hself type h]

section

variable (file : File) (p : Profile)

theorem nodup_boundNames_iff : (ClientView.of file p).boundNames.Nodup ↔
    (file.services.Pairwise fun s t => capitalise s.name ≠ capitalise t.name) ∧
      (∀ s ∈ file.services, s.name ≠ "Connect" ∧ s.name ≠ "connect") ∧
      ∀ type ∈ messageTypes file, ∀ s ∈ file.services, typeName type ≠ className s.name := by
  have hhead : headNames.Nodup := by decide
  have hshapes : ∀ name ∈ headNames,
      name ∉ (ClientView.of file p).messages.map MessageView.name := by
    intro name hname hshape
    obtain ⟨type, -, rfl⟩ := (mem_name_messages_iff file p).mp hshape
    exact typeName_not_mem_importedNames type (mem_headNames_iff.mp hname)
  have hclasses : (file.services.map fun s => className s.name).Nodup ↔
      file.services.Pairwise fun s t => capitalise s.name ≠ capitalise t.name := by
    simp only [List.Nodup, List.pairwise_map, ne_eq, className_inj]
  have hbase : (∀ s ∈ file.services, className s.name ∉ headNames) ↔
      ∀ s ∈ file.services, s.name ≠ "Connect" ∧ s.name ≠ "connect" := by
    simp only [mem_headNames_iff, className_mem_importedNames_iff, not_or, ne_eq]
  have happart : (∀ s ∈ file.services,
      className s.name ∉ (ClientView.of file p).messages.map MessageView.name) ↔
      ∀ type ∈ messageTypes file, ∀ s ∈ file.services, typeName type ≠ className s.name := by
    simp only [mem_name_messages_iff, not_exists, not_and]
    exact ⟨fun h type ht s hs => h s hs type ht, fun h s hs type ht => h type ht s hs⟩
  have hdisjoint : ∀ names : List String,
      names.Disjoint (file.services.map fun s => className s.name) ↔
        ∀ s ∈ file.services, className s.name ∉ names := fun names => by
    rw [List.disjoint_right]
    exact List.forall_mem_map
  rw [boundNames_of, List.nodup_append', List.nodup_append', List.disjoint_append_left, hdisjoint,
    hdisjoint, hclasses, hbase, happart]
  refine ⟨fun h => h.2, fun h => ⟨⟨hhead, nodup_name_messages_of file p, ?_⟩, h⟩⟩
  exact List.disjoint_left.mpr fun _ hname => hshapes _ hname

theorem builtins_boundNames_iff :
    (∀ name ∈ (ClientView.of file p).boundNames, name ∉ usedBuiltins) ↔
      ∀ type ∈ messageTypes file, type ∉ usedBuiltins := by
  have hhead : ∀ name ∈ headNames, name ∉ usedBuiltins := by decide
  have hclasses : ∀ name ∈ file.services.map fun s => className s.name, name ∉ usedBuiltins := by
    intro name hname
    obtain ⟨s, -, rfl⟩ := List.mem_map.mp hname
    exact className_not_mem_usedBuiltins s.name
  have hshapes : (∀ name ∈ (ClientView.of file p).messages.map MessageView.name,
      name ∉ usedBuiltins) ↔ ∀ type ∈ messageTypes file, type ∉ usedBuiltins := by
    simp only [mem_name_messages_iff, forall_exists_index, and_imp, forall_apply_eq_imp_iff₂,
      typeName_mem_usedBuiltins_iff]
  rw [boundNames_of, List.forall_mem_append, List.forall_mem_append, hshapes]
  exact ⟨fun h => h.1.2, fun h => ⟨⟨hhead, h⟩, hclasses⟩⟩

/-- **Names at module level.** A unit binds the names of its head, of its shapes and of its classes;
they are pairwise distinct and none is a builtin that the unit uses exactly if the names of the
schema file keep them apart. -/
theorem scopeKept_iff :
    (ClientView.of file p).boundNames =
        headNames ++ (ClientView.of file p).messages.map MessageView.name ++
          file.services.map (fun s => className s.name) ∧
      (ScopeKept (ClientView.of file p) ↔ NamesApart file) := by
  refine ⟨boundNames_of file p, fun h => ?_, fun h => ?_⟩
  · obtain ⟨hservices, hbase, hshapes⟩ := (nodup_boundNames_iff file p).mp h.apart
    exact ⟨hservices, hbase, hshapes, (builtins_boundNames_iff file p).mp h.builtins⟩
  · exact ⟨(nodup_boundNames_iff file p).mpr ⟨h.services, h.base, h.shapes⟩,
      (builtins_boundNames_iff file p).mpr h.builtins⟩

end

/-! ## A service that is called as the runtime's class -/

/-- Two services of different names. The class of the first takes the name that the unit imports,
and the class of the second is derived from it. -/
theorem connect_shadows_base :
    let file : File := ⟨"a.proto", "", [⟨"Connect", []⟩, ⟨"Greeter", []⟩]⟩
    (file.services.map Service.name).Nodup ∧
      (ClientView.of file defaultProfile).boundNames.count "ConnectClient" = 2 ∧
      ¬ ScopeKept (ClientView.of file defaultProfile) := by
  intro file
  have hcount : (ClientView.of file defaultProfile).boundNames.count "ConnectClient" = 2 := by
    rw [boundNames_of]
    decide
  refine ⟨by decide, hcount, fun h => ?_⟩
  have honce := List.nodup_iff_count_le_one.mp h.apart "ConnectClient"
  omega

end ConnectRpc.Stub
