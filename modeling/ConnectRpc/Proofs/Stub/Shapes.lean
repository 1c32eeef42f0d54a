import ConnectRpc.Proofs.Descriptor.Conversion
import ConnectRpc.Proofs.Stub.UnitNames
import ConnectRpc.Stub.ClientUnit
import Mathlib.Data.List.Nodup

/-!
# Shapes of messages

A unit has one shape for every type name that its methods mention: that of the first message
mentioned under the name (`shape?_of`). So every method finds the shapes of its own messages exactly
if messages mentioned under one name list the same fields.

The type name of a message that comes from a compiled schema is made of its local name, which keeps
neither the package nor where one name ends and the next begins. Different messages may therefore
share a type name although their full names differ, and then the later one is described by the
fields of the earlier (`packages_share_shape`). Main statement: the shapes of a file's methods are
right exactly if any two messages mentioned under one type name list the same fields, and they are
where type names tell the mentioned messages apart (`shapes_right_iff`).
-/

namespace ConnectRpc.Stub

open Schema Descriptor

/-! ## One shape for each name -/

theorem find?_foldl_addMessage (messages ms : List MessageView) (name : String) :
    (ms.foldl addMessage messages).find? (·.name == name) =
      (messages ++ ms).find? (·.name == name) := by
  induction ms generalizing messages with
  | nil => rw [List.foldl_nil, List.append_nil]
  | cons m rest ih =>
    rw [List.foldl_cons, ih, addMessage]
    split
    · next hthere =>
      obtain ⟨first, hfirst, hname⟩ := List.any_eq_true.mp hthere
      rw [List.find?_append, List.find?_append, List.find?_cons]
      cases hm : m.name == name with
      | false => rfl
      | true =>
        have hsome : (messages.find? (·.name == name)).isSome := by
          rw [List.find?_isSome]
          refine ⟨first, hfirst, ?_⟩
          rw [beq_iff_eq] at hname hm ⊢
          rw [hname, hm]
        rw [Option.or_of_isSome hsome, Option.or_of_isSome hsome]
    · rw [List.append_assoc, List.singleton_append]

theorem nodup_name_foldl_addMessage {messages : List MessageView}
    (h : (messages.map MessageView.name).Nodup) (ms : List MessageView) :
    ((ms.foldl addMessage messages).map MessageView.name).Nodup := by
  induction ms generalizing messages with
  | nil => exact h
  | cons m rest ih =>
    refine ih ?_
    rw [addMessage]
    split
    · exact h
    · next hnew =>
      rw [List.map_append, List.map_singleton, ← List.concat_eq_append]
      refine h.concat fun hname => hnew ?_
      obtain ⟨first, hfirst, heq⟩ := List.mem_map.mp hname
      exact List.any_eq_true.mpr ⟨first, hfirst, by rw [beq_iff_eq, heq]⟩

theorem mem_of_mem_foldl_addMessage {messages ms : List MessageView} {m : MessageView}
    (h : m ∈ ms.foldl addMessage messages) : m ∈ messages ∨ m ∈ ms := by
  induction ms generalizing messages with
  | nil => exact .inl h
  | cons first rest ih =>
    rw [List.mem_cons]
    rcases ih h with hmem | hmem
    · rw [addMessage] at hmem
      split at hmem
      · exact .inl hmem
      · rcases List.mem_append.mp hmem with hmem | hmem
        · exact .inl hmem
        · exact .inr (.inl (List.mem_singleton.mp hmem))
    · exact .inr (.inr hmem)

/-- A name that occurs has a first shape. -/
theorem exists_find?_name {ms : List MessageView} {m : MessageView} (h : m ∈ ms) :
    ∃ first ∈ ms, ms.find? (·.name == m.name) = some first ∧ first.name = m.name := by
  have hsome : (ms.find? (·.name == m.name)).isSome := by
    rw [List.find?_isSome]
    exact ⟨m, h, beq_self_eq_true _⟩
  obtain ⟨first, hfirst⟩ := Option.isSome_iff_exists.mp hsome
  have hname : (first.name == m.name) = true :=
    List.find?_some (p := fun shape : MessageView => shape.name == m.name) hfirst
  exact ⟨first, List.mem_of_find?_eq_some hfirst, hfirst, beq_iff_eq.mp hname⟩

/-- In a list each shape is the first of its name exactly if shapes of one name are equal. -/
theorem find?_name_eq_self_iff {ms : List MessageView} :
    (∀ m ∈ ms, ms.find? (·.name == m.name) = some m) ↔
      ∀ m ∈ ms, ∀ m' ∈ ms, m.name = m'.name → m = m' := by
  constructor
  · intro h m hm m' hm' heq
    have hfirst := h m hm
    rw [heq, h m' hm', Option.some_inj] at hfirst
    exact hfirst.symm
  · intro h m hm
    obtain ⟨first, hmem, hfirst, hname⟩ := exists_find?_name hm
    rw [hfirst, h first hmem m hm hname]

/-! ## The shapes of a unit -/

/-- The shapes that the methods of a file mention, one behind the other. -/
def mentionedShapes (file : File) : List MessageView :=
  (file.services.flatMap Service.methods).flatMap methodMessages

/-- The shape of a name in a unit. -/
def ClientView.shape? (v : ClientView) (name : String) : Option MessageView :=
  v.messages.find? (·.name == name)

section

variable (file : File) (p : Profile)

theorem messages_of :
    (ClientView.of file p).messages = (mentionedShapes file).foldl addMessage [] := by
  rw [ClientView.of, mentionedShapes]

/-- The shape of a name is the first that is mentioned under it. -/
theorem shape?_of (name : String) :
    (ClientView.of file p).shape? name = (mentionedShapes file).find? (·.name == name) := by
  rw [ClientView.shape?, messages_of, find?_foldl_addMessage, List.nil_append]

theorem nodup_name_messages_of :
    ((ClientView.of file p).messages.map MessageView.name).Nodup := by
  have hnil : (([] : List MessageView).map MessageView.name).Nodup := List.nodup_nil
  rw [messages_of]
  exact nodup_name_foldl_addMessage hnil (mentionedShapes file)

theorem mem_name_messages_of_iff {name : String} :
    name ∈ (ClientView.of file p).messages.map MessageView.name ↔
      name ∈ (mentionedShapes file).map MessageView.name := by
  constructor
  · intro h
    obtain ⟨m, hm, rfl⟩ := List.mem_map.mp h
    rw [messages_of] at hm
    exact List.mem_map_of_mem ((mem_of_mem_foldl_addMessage hm).resolve_left List.not_mem_nil)
  · intro h
    obtain ⟨m, hm, rfl⟩ := List.mem_map.mp h
    obtain ⟨first, -, hfirst, hname⟩ := exists_find?_name hm
    rw [← shape?_of file p] at hfirst
    rw [← hname]
    exact List.mem_map_of_mem (List.mem_of_find?_eq_some hfirst)

end

/-- The methods of the file find the shapes of their own messages under the names of their types. -/
def ShapesRight (file : File) (v : ClientView) : Prop :=
  ∀ s ∈ file.services, ∀ m ∈ s.methods,
    v.shape? (typeName m.inputType) = some (.of (typeName m.inputType) m.requestFields) ∧
      v.shape? (typeName m.outputType) = some (.of (typeName m.outputType) m.responseFields)

theorem MessageView.name_of (name : String) (fields : List Field) :
    (MessageView.of name fields).name = name := rfl

theorem shapesRight_iff_find? {file : File} {v : ClientView} :
    ShapesRight file v ↔ ∀ m ∈ mentionedShapes file, v.shape? m.name = some m := by
  simp only [ShapesRight, mentionedShapes, methodMessages, List.forall_mem_flatMap,
    List.forall_mem_cons, List.not_mem_nil, false_imp_iff, implies_true, and_true,
    MessageView.name_of]

/-! ## Messages of compiled schemas -/

/-- The full names of the message types that the methods of a file mention. -/
def mentionedTypes (f : FileDecl) : List String :=
  (f.services.flatMap ServiceDecl.kept).flatMap fun m => [m.inputType, m.outputType]

/-- The messages that the methods of a file mention, one behind the other. -/
def mentionedMessages (index : List Descriptor.Entry) (f : FileDecl) : List Descriptor.Entry :=
  (mentionedTypes f).filterMap (find? index)

/-- What a message's shape lists: the key and the type hint of each field, in their order. -/
def listedFields (index : List Descriptor.Entry) (e : Descriptor.Entry) : List (String × String) :=
  (fieldsOf index e).map fun f => (f.jsonName, fieldHint f)

/-- The shape of a message. -/
def entryShape (index : List Descriptor.Entry) (e : Descriptor.Entry) : MessageView :=
  ⟨typeName e.localName, listedFields index e⟩

section

variable {index : List Descriptor.Entry}

theorem name_entryShape (e : Descriptor.Entry) :
    (entryShape index e).name = typeName e.localName := by
  rw [entryShape]

theorem methodMessages_of_methodOf {decl : MethodDecl} {m : Method}
    (h : methodOf index decl = .ok m) :
    methodMessages m =
      ([decl.inputType, decl.outputType].filterMap (find? index)).map (entryShape index) := by
  simp only [methodOf, bind_ok_iff, pure_ok_iff, resolve_ok_iff] at h
  obtain ⟨request, hrequest, response, hresponse, rfl⟩ := h
  simp only [List.filterMap_cons, hrequest, hresponse]
  rfl

theorem forall₂_methods_of_fileOf {f : FileDecl} {file : File} (h : fileOf index f = .ok file) :
    List.Forall₂ (fun decl m => methodOf index decl = .ok m)
      (f.services.flatMap ServiceDecl.kept) (file.services.flatMap Service.methods) := by
  obtain ⟨services, hservices, rfl⟩ := map_ok_iff.mp h
  refine List.rel_flatMap (mapM_ok_iff.mp hservices) fun decl s hservice => ?_
  obtain ⟨methods, hmethods, rfl⟩ := map_ok_iff.mp hservice
  exact mapM_ok_iff.mp hmethods

/-- The shapes that a file mentions are those of the messages that its declaration mentions. -/
theorem mentionedShapes_of_fileOf {f : FileDecl} {file : File} (h : fileOf index f = .ok file) :
    mentionedShapes file = (mentionedMessages index f).map (entryShape index) := by
  have hmethods := forall₂_methods_of_fileOf h
  rw [mentionedShapes, mentionedMessages, mentionedTypes]
  generalize f.services.flatMap ServiceDecl.kept = decls at hmethods ⊢
  generalize file.services.flatMap Service.methods = methods at hmethods ⊢
  induction hmethods with
  | nil => rfl
  | cons hfirst _ ih =>
    rw [List.flatMap_cons, List.flatMap_cons, List.filterMap_append, List.map_append, ih,
      methodMessages_of_methodOf hfirst]

/-- A file of the schemas of requested files is made of one of the files that are there. -/
theorem exists_fileOf_of_mem_schemaOf {files : List FileDecl} {names : List String}
    {schema : List File} (h : schemaOf files names = .ok schema) {file : File}
    (hfile : file ∈ schema) : ∃ f ∈ files, fileOf (indexOf files) f = .ok file := by
  obtain ⟨name, -, f, hname, hmade⟩ := exists_of_mem_of_forall₂ (schemaOf_ok_iff.mp h) hfile
  exact ⟨f, fileNamed_ok hname, hmade⟩

/-- The full name that a message was found under is its own. -/
theorem fullName_of_find? {name : String} {e : Descriptor.Entry} (h : find? index name = some e) :
    e.fullName = name :=
  beq_iff_eq.mp (List.find?_some (p := fun e : Descriptor.Entry => e.fullName == name) h)

theorem eq_of_fullName_eq {f : FileDecl} {e e' : Descriptor.Entry}
    (he : e ∈ mentionedMessages index f) (he' : e' ∈ mentionedMessages index f)
    (h : e.fullName = e'.fullName) : e = e' := by
  obtain ⟨type, -, htype⟩ := List.mem_filterMap.mp he
  obtain ⟨type', -, htype'⟩ := List.mem_filterMap.mp he'
  rw [fullName_of_find? htype, fullName_of_find? htype'] at h
  rw [h, htype', Option.some_inj] at htype
  exact htype.symm

/-- Shapes of one name are equal exactly if they list the same fields. -/
theorem entryShape_eq_iff {e e' : Descriptor.Entry}
    (h : typeName e.localName = typeName e'.localName) :
    entryShape index e = entryShape index e' ↔ listedFields index e = listedFields index e' := by
  rw [entryShape, entryShape, MessageView.mk.injEq]
  exact and_iff_right h

end

/-- Messages that the methods of a file mention under one type name list the same fields. -/
def AlikeUnderOneName (index : List Descriptor.Entry) (f : FileDecl) : Prop :=
  ∀ e ∈ mentionedMessages index f, ∀ e' ∈ mentionedMessages index f,
    typeName e.localName = typeName e'.localName → listedFields index e = listedFields index e'

theorem shapesRight_iff_alike {index : List Descriptor.Entry} {f : FileDecl} {file : File}
    (h : fileOf index f = .ok file) (p : Profile) :
    ShapesRight file (ClientView.of file p) ↔ AlikeUnderOneName index f := by
  rw [shapesRight_iff_find?]
  simp only [shape?_of]
  rw [find?_name_eq_self_iff, mentionedShapes_of_fileOf h]
  simp only [List.forall_mem_map, name_entryShape]
  exact forall₂_congr fun e _ => forall₂_congr fun e' _ => imp_congr_right entryShape_eq_iff

/-- How the shapes of a unit describe the messages that a file's declaration mentions. -/
structure ShapesDescribe (index : List Descriptor.Entry) (f : FileDecl) (file : File)
    (v : ClientView) : Prop where
  /-- Under each name stands the shape of the first message mentioned with it. -/
  first : ∀ name, v.shape? name =
    ((mentionedMessages index f).find? (typeName ·.localName == name)).map (entryShape index)
  /-- The methods find the shapes of their own messages exactly if messages mentioned under one
  name list the same fields. -/
  right : ShapesRight file v ↔ AlikeUnderOneName index f
  /-- In particular they do where type names tell the mentioned messages apart. -/
  apart : (∀ e ∈ mentionedMessages index f, ∀ e' ∈ mentionedMessages index f,
    typeName e.localName = typeName e'.localName → e.fullName = e'.fullName) → ShapesRight file v

/-- **The shapes of a file's methods**, for a file of the schemas made of compiled ones: each type
name has the shape of the first message mentioned under it, so the methods find the fields of their
own messages, in order and with keys and type hints, exactly if messages mentioned under one type
name list the same fields. -/
theorem shapes_right_iff {files : List FileDecl} {names : List String} {schema : List File}
    (h : schemaOf files names = .ok schema) {file : File} (hfile : file ∈ schema) (p : Profile) :
    ∃ f ∈ files, fileOf (indexOf files) f = .ok file ∧
      ShapesDescribe (indexOf files) f file (ClientView.of file p) := by
  obtain ⟨f, hf, hmade⟩ := exists_fileOf_of_mem_schemaOf h hfile
  refine ⟨f, hf, hmade, fun name => ?_, shapesRight_iff_alike hmade p, fun happart => ?_⟩
  · rw [shape?_of, mentionedShapes_of_fileOf hmade, List.find?_map]
    rfl
  · refine (shapesRight_iff_alike hmade p).mpr fun e he e' he' hname => ?_
    rw [eq_of_fullName_eq he he' (happart e he e' he' hname)]

/-! ## Two packages -/

/-- A message with text fields of the given names. -/
def textMessage (name : String) (fields : List String) : MessageDecl where
  name
  fields := fields.map fun field => ⟨field, some .optional, some .string, "", "", false⟩
  nested := []
  isMapEntry := false

/-- Two packages with a message each, and a service that takes the one and answers with the
other. -/
def twoPackages (first second : MessageDecl) : List FileDecl :=
  [⟨"old.proto", "old", "proto3", [first], []⟩,
    ⟨"new.proto", "new", "proto3", [second],
      [⟨"Moves", [⟨"Move", ".old." ++ first.name, ".new." ++ second.name, false, false, none⟩]⟩]⟩]

theorem indexOf_twoPackages (name name' : String) (fields fields' : List String) :
    indexOf (twoPackages (textMessage name fields) (textMessage name' fields')) =
      [⟨".old." ++ name, name, textMessage name fields, "proto3"⟩,
        ⟨".new." ++ name', name', textMessage name' fields', "proto3"⟩] := by
  have hentries : ∀ (language scope : String) (name : String) (fields : List String),
      entriesOf language [⟨scope, "", textMessage name fields⟩] =
        [⟨nameIn scope name, name, textMessage name fields, language⟩] := by
    intro language scope name fields
    rw [entriesOf, Waiting.inner, textMessage, List.map_nil, List.reverse_nil, List.nil_append,
      entriesOf]
    rfl
  simp only [indexOf, twoPackages, List.flatMap_cons, List.flatMap_nil, FileDecl.entries,
    FileDecl.outermost, List.map_cons, List.map_nil, List.reverse_singleton, hentries]
  rfl

/-- The file of the service, with a field of the given name in its request and in its response. -/
def moveFile (request response : String) : File :=
  ⟨"new.proto", "new", [⟨"Moves", [⟨"Move", "Item", "Item", false, false,
    [⟨request, request, "string", false, false⟩],
    [⟨response, response, "string", false, false⟩]⟩]⟩]⟩

/-- Messages of one type name that list the same fields have a shape that is right for both. -/
theorem shapes_right_across_packages :
    let files := twoPackages (textMessage "Item" ["id"]) (textMessage "Item" ["id"])
    let file := moveFile "id" "id"
    schemaOf files ["new.proto"] = .ok [file] ∧
      (∃ f ∈ files, fileOf (indexOf files) f = .ok file ∧
        ShapesDescribe (indexOf files) f file (ClientView.of file defaultProfile)) ∧
      ShapesRight file (ClientView.of file defaultProfile) := by
  intro files file
  have hschema : schemaOf files ["new.proto"] = .ok [file] := by
    rw [schemaOf, indexOf_twoPackages]
    decide +kernel
  refine ⟨hschema, shapes_right_iff hschema (List.mem_singleton_self _) defaultProfile, ?_⟩
  unfold ShapesRight
  decide +kernel

/-- Two messages of different full names, and one shape under the type name of both: the field of
the response is not in it. -/
theorem packages_share_shape :
    let files := twoPackages (textMessage "Item" ["id"]) (textMessage "Item" ["label"])
    let file := moveFile "id" "label"
    ((indexOf files).map Descriptor.Entry.fullName).Nodup ∧
      schemaOf files ["new.proto"] = .ok [file] ∧
      (ClientView.of file defaultProfile).shape? (typeName "Item") =
        some ⟨"Item", [("id", "str")]⟩ ∧
      ¬ ShapesRight file (ClientView.of file defaultProfile) := by
  intro files file
  refine ⟨?_, ?_, by decide +kernel, ?_⟩
  · rw [indexOf_twoPackages]
    decide +kernel
  · rw [schemaOf, indexOf_twoPackages]
    decide +kernel
  · unfold ShapesRight
    decide +kernel

end ConnectRpc.Stub
