import ConnectRpc.Proofs.Descriptor.Index
import ConnectRpc.Proofs.Success

/-!
# When files are converted

A requested file becomes a schema file if it is there and the methods that stay find their messages.
The functions of the conversion stop at the first thing that is missing; here it is said without
their order which files, services and methods are converted (`exists_schemaOf_iff`), and what the
result has of them (`FileOf`): the same services in the same order, each with the methods that stay.
-/

namespace ConnectRpc.Descriptor

open Schema (Field Method Service File)

variable {index : List Entry}

/-! ## Methods -/

theorem resolve_ok_iff {type : String} {e : Entry} :
    resolve index type = .ok e ↔ find? index type = some e := by
  unfold resolve
  split
  · next found hfound => rw [Except.ok.injEq, hfound, Option.some_inj]
  · next hnone => simp [hnone]

theorem exists_methodOf_iff {m : MethodDecl} :
    (∃ method, methodOf index m = .ok method) ↔
      (find? index m.inputType).isSome ∧ (find? index m.outputType).isSome := by
  simp only [methodOf, bind_ok_iff, pure_ok_iff, resolve_ok_iff, Option.isSome_iff_exists]
  constructor
  · rintro ⟨method, request, hrequest, response, hresponse, -⟩
    exact ⟨⟨request, hrequest⟩, response, hresponse⟩
  · rintro ⟨⟨request, hrequest⟩, response, hresponse⟩
    exact ⟨_, request, hrequest, response, hresponse, rfl⟩

theorem name_of_methodOf {m : MethodDecl} {method : Method}
    (h : methodOf index m = .ok method) : method.name = m.name := by
  simp only [methodOf, bind_ok_iff, pure_ok_iff] at h
  obtain ⟨request, -, response, -, rfl⟩ := h
  rfl

/-! ## Services and files -/

/-- The service has the methods of the declaration that stay. -/
structure ServiceOf (d : ServiceDecl) (s : Service) : Prop where
  name : s.name = d.name
  methods : s.methods.map Method.name = d.kept.map MethodDecl.name

/-- The file has the services of the declaration. -/
structure FileOf (d : FileDecl) (f : File) : Prop where
  name : f.name = d.name
  package : f.package = d.package
  services : List.Forall₂ ServiceOf d.services f.services

/-- The methods that stay find their messages. -/
def ServiceDecl.Resolves (index : List Entry) (d : ServiceDecl) : Prop :=
  ∀ m ∈ d.kept, (find? index m.inputType).isSome ∧ (find? index m.outputType).isSome

theorem exists_serviceOf_iff {d : ServiceDecl} :
    (∃ s, serviceOf index d = .ok s) ↔ d.Resolves index := by
  rw [ServiceDecl.Resolves, serviceOf, exists_map_ok_iff, exists_mapM_ok_iff]
  simp only [exists_methodOf_iff]

theorem serviceOf_ok {d : ServiceDecl} {s : Service} (h : serviceOf index d = .ok s) :
    ServiceOf d s := by
  obtain ⟨methods, hmethods, rfl⟩ := map_ok_iff.mp h
  refine ⟨rfl, ?_⟩
  have hnames := (mapM_ok_iff.mp hmethods).imp fun _ _ => name_of_methodOf
  rw [← List.forall₂_eq_eq_eq, List.forall₂_map_left_iff, List.forall₂_map_right_iff]
  exact hnames.flip.imp fun _ _ => id

theorem exists_fileOf_iff {d : FileDecl} :
    (∃ f, fileOf index d = .ok f) ↔ ∀ s ∈ d.services, s.Resolves index := by
  rw [fileOf, exists_map_ok_iff, exists_mapM_ok_iff]
  simp only [exists_serviceOf_iff]

theorem fileOf_ok {d : FileDecl} {f : File} (h : fileOf index d = .ok f) : FileOf d f := by
  obtain ⟨services, hservices, rfl⟩ := map_ok_iff.mp h
  exact ⟨rfl, rfl, (mapM_ok_iff.mp hservices).imp fun _ _ => serviceOf_ok⟩

/-! ## Requested files -/

variable {files : List FileDecl} {names : List String}

theorem fileNamed_ok_iff {name : String} {f : FileDecl} :
    fileNamed files name = .ok f ↔ files.reverse.find? (·.name == name) = some f := by
  unfold fileNamed
  split
  · next found hfound => rw [Except.ok.injEq, hfound, Option.some_inj]
  · next hnone => simp [hnone]

theorem fileNamed_ok {name : String} {f : FileDecl} (h : fileNamed files name = .ok f) :
    f ∈ files :=
  List.mem_reverse.mp (List.mem_of_find?_eq_some (fileNamed_ok_iff.mp h))

theorem schemaOf_ok_iff {schema : List File} :
    schemaOf files names = .ok schema ↔ List.Forall₂ (fun name file =>
      ∃ f, fileNamed files name = .ok f ∧ fileOf (indexOf files) f = .ok file) names schema := by
  rw [schemaOf, mapM_ok_iff]
  refine iff_of_eq (congrArg (fun R => List.Forall₂ R names schema) ?_)
  funext name file
  exact propext bind_ok_iff

/-- **Requested files are converted** exactly if each of them is there and the methods in it that
stay find their messages. -/
theorem exists_schemaOf_iff :
    (∃ schema, schemaOf files names = .ok schema) ↔ ∀ name ∈ names,
      ∃ f, fileNamed files name = .ok f ∧ ∀ s ∈ f.services, s.Resolves (indexOf files) := by
  simp only [schemaOf_ok_iff, exists_forall₂_iff, ← exists_fileOf_iff]
  refine forall₂_congr fun name _ => ?_
  constructor
  · rintro ⟨file, f, hname, hmade⟩
    exact ⟨f, hname, file, hmade⟩
  · rintro ⟨f, hname, file, hmade⟩
    exact ⟨file, f, hname, hmade⟩

end ConnectRpc.Descriptor
