import ConnectRpc.Proofs.Stub.TypeNames
import ConnectRpc.Stub.Units
import Mathlib.Data.List.Nodup

/-!
# Names of units

All units of a schema are written below one folder, each at the path that its name spells, so a
unit is lost when another has its name. The name of a client unit is made of the folders and the
stem of its schema file. Putting it together loses nothing, since no part holds a slash
(`clientPath_eq_iff`); what is lost is lost before, when each part is made a module name and the
suffix of the file is dropped.

So the names are pairwise distinct exactly if no two files with services have the same place in this
sense and none has the place of the runtime (`nodup_name_units_iff`). Distinct names of files are
not enough (`sanitised_names_collide`).
-/

namespace ConnectRpc.Stub

open Schema Text

/-! ## Parts without slashes -/

theorem not_mem_slash_moduleName (name : String) : '/' ∉ (moduleName name).toList := by
  have hslash : isWordChar '/' = false := by decide +kernel
  intro h
  have hword := isWordChar_of_mem_moduleName _ h
  rw [hslash] at hword
  cases hword

theorem not_mem_slash_of_isIdentifier {s : String} (h : isIdentifier s = true) :
    '/' ∉ s.toList :=
  not_mem_of_isIdentifier (by decide +kernel) h

theorem Profile.not_mem_slash_clientSuffix (p : Profile) : '/' ∉ p.clientSuffix.toList := by
  intro h
  refine not_mem_slash_of_isIdentifier p.clientSuffix_isIdentifier ?_
  rw [String.toList_append]
  exact List.mem_append_right _ h

theorem not_mem_slash_clientPathParts (fileName : String) (p : Profile) :
    ∀ part ∈ clientPathParts fileName p, '/' ∉ part.toList := by
  intro part hpart
  rcases List.mem_append.mp hpart with hpart | hpart
  · obtain ⟨folder, -, rfl⟩ := List.mem_map.mp hpart
    exact not_mem_slash_moduleName folder
  · rw [List.mem_singleton.mp hpart, String.toList_append, String.toList_append]
    have hstem := not_mem_slash_moduleName (SlashPath.parse fileName).stem
    have hsuffix := p.not_mem_slash_clientSuffix
    simp [hstem, hsuffix]

theorem not_mem_slash_runtimePath (p : Profile) : '/' ∉ (runtimePath p).toList := by
  have hmodule := not_mem_slash_of_isIdentifier p.runtimeModule_isIdentifier
  rw [runtimePath, String.toList_append]
  simp [hmodule]

theorem splitText_clientPath (fileName : String) (p : Profile) :
    splitText '/' (clientPath fileName p) = clientPathParts fileName p :=
  splitText_joinText rfl (by simp [clientPathParts]) (not_mem_slash_clientPathParts fileName p)

/-! ## Places -/

/-- Where the unit of a schema file lies: the file's folders and its stem, all made module names. -/
def unitPlace (fileName : String) : List String × String :=
  ((SlashPath.parse fileName).parent.parts.map moduleName,
    moduleName (SlashPath.parse fileName).stem)

theorem clientPathParts_eq (fileName : String) (p : Profile) :
    clientPathParts fileName p =
      (unitPlace fileName).1 ++ [(unitPlace fileName).2 ++ p.clientSuffix ++ ".py"] := by
  simp only [clientPathParts, unitPlace]

section

variable {fileName fileName' : String} {p : Profile}

/-- Two files have one unit path exactly if they have one place. -/
theorem clientPath_eq_iff :
    clientPath fileName p = clientPath fileName' p ↔ unitPlace fileName = unitPlace fileName' := by
  rw [← splitText_inj '/', splitText_clientPath, splitText_clientPath, clientPathParts_eq,
    clientPathParts_eq]
  generalize unitPlace fileName = place
  generalize unitPlace fileName' = place'
  refine ⟨fun h => ?_, fun h => by rw [h]⟩
  obtain ⟨hfolders, hlast⟩ := List.append_inj' h rfl
  rw [List.singleton_inj, String.append_left_inj, String.append_left_inj] at hlast
  exact Prod.ext hfolders hlast

/-- The place is that of the runtime: in no folder, and with the suffix of client units the stem
makes up the runtime's name. -/
def AtRuntime (p : Profile) (place : List String × String) : Prop :=
  place.1 = [] ∧ place.2 ++ p.clientSuffix = p.runtimeModule

theorem clientPath_eq_runtimePath_iff :
    clientPath fileName p = runtimePath p ↔ AtRuntime p (unitPlace fileName) := by
  rw [← splitText_inj '/', splitText_clientPath,
    splitText_of_not_mem (not_mem_slash_runtimePath p), clientPathParts_eq, runtimePath, AtRuntime]
  generalize unitPlace fileName = place
  constructor
  · intro h
    rw [← List.nil_append [p.runtimeModule ++ ".py"]] at h
    obtain ⟨hfolders, hlast⟩ := List.append_inj' h rfl
    rw [List.singleton_inj, String.append_left_inj] at hlast
    exact ⟨hfolders, hlast⟩
  · rintro ⟨hfolders, hstem⟩
    rw [hfolders, hstem, List.nil_append]

end

/-! ## Units -/

/-- The names of the units of a schema that has services: the paths of its files with services, then
that of the runtime. -/
theorem map_name_units {files : List File} (p : Profile) (h : files.filter hasServices ≠ []) :
    (units files p).map SourceUnit.name =
      ((files.filter hasServices).map fun f => clientPath f.name p) ++ [runtimePath p] := by
  have hclients : (clientUnits files p).isEmpty = false := by
    simpa [clientUnits] using h
  rw [units]
  simp only [hclients, Bool.false_eq_true, if_false]
  rw [List.map_append, clientUnits, List.map_map]
  rfl

/-- The files that have services get units of distinct names, and none that of the runtime. -/
def UnitsKeptApart (files : List File) (p : Profile) : Prop :=
  (files.filter hasServices).Pairwise (fun f g => unitPlace f.name ≠ unitPlace g.name) ∧
    ∀ f ∈ files.filter hasServices, ¬ AtRuntime p (unitPlace f.name)

theorem nodup_name_units_iff (files : List File) (p : Profile) :
    ((units files p).map SourceUnit.name).Nodup ↔ UnitsKeptApart files p := by
  rw [UnitsKeptApart]
  by_cases hserved : files.filter hasServices = []
  · simp [units, clientUnits, hserved]
  · rw [map_name_units p hserved, List.nodup_append, List.Nodup, List.pairwise_map]
    simp only [ne_eq, clientPath_eq_iff, List.mem_map, List.mem_singleton, forall_exists_index,
      and_imp, forall_apply_eq_imp_iff₂, forall_eq, clientPath_eq_runtimePath_iff,
      List.pairwise_singleton, true_and]

/-- **When units are kept apart.** The names of a schema's units are pairwise distinct exactly if
its files with services have pairwise distinct places, and none that of the runtime. The paths at
which they are written below a folder are pairwise distinct in the same case. -/
theorem units_kept_apart_iff (files : List File) (p : Profile) (folder : SlashPath) :
    (((units files p).map SourceUnit.name).Nodup ↔ UnitsKeptApart files p) ∧
    (((units files p).map fun u => folder.append (splitText '/' u.name)).Nodup ↔
      UnitsKeptApart files p) := by
  have hpaths : ((units files p).map fun u => folder.append (splitText '/' u.name)).Nodup ↔
      ((units files p).map SourceUnit.name).Nodup := by
    rw [List.Nodup, List.Nodup, List.pairwise_map, List.pairwise_map]
    simp only [ne_eq, SlashPath.append, SlashPath.mk.injEq, List.append_cancel_left_eq, true_and,
      splitText_inj]
  exact ⟨nodup_name_units_iff files p, hpaths.trans (nodup_name_units_iff files p)⟩

/-! ## Two files -/

/-- The profile of the settings that hold where nothing is said. -/
def defaultProfile : Profile where
  clientSuffix := Settings.default.clientSuffix
  runtimeModule := Settings.default.runtimeModule
  baseUrl := Settings.default.baseUrl
  runtimeModule_isIdentifier := by decide +kernel
  clientSuffix_isIdentifier := by decide +kernel

/-- Two files of different names with a service each, and one name for both units. -/
theorem sanitised_names_collide :
    let files : List File :=
      [⟨"a-b.proto", "", [⟨"First", []⟩]⟩, ⟨"a_b.proto", "", [⟨"Second", []⟩]⟩]
    (files.map File.name).Nodup ∧ (∀ f ∈ files, hasServices f = true) ∧
      (units files defaultProfile).map SourceUnit.name =
        ["a_b_connect.py", "a_b_connect.py", "connect_runtime.py"] ∧
      ¬ ((units files defaultProfile).map SourceUnit.name).Nodup := by
  intro files
  refine ⟨by decide, by decide, ?_, ?_⟩
  · decide +kernel
  · decide +kernel

end ConnectRpc.Stub
