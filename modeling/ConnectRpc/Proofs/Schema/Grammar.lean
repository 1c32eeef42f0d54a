import ConnectRpc.Proofs.Schema.Reading

/-!
# The grammar of schema documents

Which documents are schema documents, said part by part: the members that an object must have, those
it may have, and the forms of each (`FieldGrammar` up to `SchemaGrammar`). Reading accepts these
documents and no others, and what it reads mirrors the document: one object for each part, in the
same order, with the same texts (`readSchema_mirrors`).

The other way round, a schema without empty names, but for those of packages, whose services have
methods of different names can be written down as a document (`schemaDocument`), and reading that
document gives the schema back (`readSchema_schemaDocument`). All of this holds of texts with halves
of characters as of texts without, and of documents of every type that has shapes.
-/

namespace ConnectRpc.Schema

variable {T α : Type}

/-! ## Forms of a member -/

/-- The member is missing or a truth value. -/
def HoldsFlag (shape : Option (Shape T α)) : Prop := shape = none ∨ ∃ b, shape = some (.bool b)

/-- The member is missing or a list of parts of a kind. -/
def HoldsList (Item : α → Prop) (shape : Option (Shape T α)) : Prop :=
  shape = none ∨ ∃ items, shape = some (.list items) ∧ ∀ d ∈ items, Item d

section

variable {shape : Option (Shape T α)}

theorem holdsFlag_iff : HoldsFlag shape ↔ ∃ b, IsFlag shape b := by
  constructor
  · rintro (rfl | ⟨b, rfl⟩)
    · exact ⟨_, .missing⟩
    · exact ⟨b, .bool b⟩
  · rintro ⟨_, hb⟩
    cases hb with
    | missing => exact .inl rfl
    | bool => exact .inr ⟨_, rfl⟩

/-- A member is a list of parts of a kind exactly if it is a list of parts that each stand for
something. -/
theorem holdsList_iff {β : Type} {Item : α → Prop} {Stands : α → β → Prop}
    (h : ∀ d, Item d ↔ ∃ b, Stands d b) :
    HoldsList Item shape ↔ ∃ bs, IsListOf Stands shape bs := by
  constructor
  · rintro (rfl | ⟨items, rfl, hitems⟩)
    · exact ⟨[], [], .missing, .nil⟩
    · obtain ⟨bs, hbs⟩ := exists_forall₂_iff.mpr fun d hd => (h d).mp (hitems d hd)
      exact ⟨bs, items, .list items, hbs⟩
  · rintro ⟨bs, items, hlist, hbs⟩
    cases hlist with
    | missing => exact .inl rfl
    | list items =>
      exact .inr ⟨items, rfl, fun d hd => (h d).mpr (exists_forall₂_iff.mp ⟨bs, hbs⟩ d hd)⟩

end

variable [DocumentText T]

/-- The member is a text with characters in it. -/
def HoldsText (shape : Option (Shape T α)) : Prop :=
  ∃ s, s ≠ DocumentText.ofString "" ∧ shape = some (.text s)

/-- The member is missing, null or a text. -/
def HoldsOptionalText (shape : Option (Shape T α)) : Prop :=
  shape = none ∨ shape = some .null ∨ ∃ s, shape = some (.text s)

/-- The member is missing, null or a text with characters in it. -/
def HoldsKey (shape : Option (Shape T α)) : Prop :=
  shape = none ∨ shape = some .null ∨ HoldsText shape

section

variable {shape : Option (Shape T α)}

theorem holdsText_iff : HoldsText shape ↔ ∃ s, IsText shape s := by
  constructor
  · rintro ⟨s, hs, rfl⟩
    exact ⟨s, .text hs⟩
  · rintro ⟨_, hs⟩
    cases hs with
    | text nonempty => exact ⟨_, nonempty, rfl⟩

theorem holdsOptionalText_iff : HoldsOptionalText shape ↔ ∃ s, IsOptionalText shape s := by
  constructor
  · rintro (rfl | rfl | ⟨s, rfl⟩)
    · exact ⟨_, .missing⟩
    · exact ⟨_, .null⟩
    · exact ⟨s, .text s⟩
  · rintro ⟨_, hs⟩
    cases hs with
    | missing => exact .inl rfl
    | null => exact .inr (.inl rfl)
    | text => exact .inr (.inr ⟨_, rfl⟩)

theorem holdsKey_iff (name : T) : HoldsKey shape ↔ ∃ key, IsKey name shape key := by
  constructor
  · rintro (rfl | rfl | ⟨s, hs, rfl⟩)
    · exact ⟨_, .missing⟩
    · exact ⟨_, .null⟩
    · exact ⟨s, .text hs⟩
  · rintro ⟨_, hkey⟩
    cases hkey with
    | missing => exact .inl rfl
    | null => exact .inr (.inl rfl)
    | text nonempty => exact .inr (.inr ⟨_, nonempty, rfl⟩)

end

/-! ## Parts of a document -/

variable [Document T α]

/-- The text of a member that is one. -/
def memberText (d : α) (key : String) : Option T :=
  match memberShape d key with
  | some (.text s) => some s
  | _ => none

/-- The part has the form of a field. -/
structure FieldGrammar (d : α) : Prop where
  isObject : IsObject d
  name : HoldsText (memberShape d "name")
  jsonName : HoldsKey (memberShape d "json_name")
  kind : HoldsText (memberShape d "kind")
  isOptional : HoldsFlag (memberShape d "optional")
  isRepeated : HoldsFlag (memberShape d "repeated")

/-- The part has the form of a method. -/
structure MethodGrammar (d : α) : Prop where
  isObject : IsObject d
  name : HoldsText (memberShape d "name")
  inputType : HoldsText (memberShape d "input_type")
  outputType : HoldsText (memberShape d "output_type")
  idempotency : HoldsOptionalText (memberShape d "idempotency_level")
  isStreaming : HoldsFlag (memberShape d "server_streaming")
  requestFields : HoldsList FieldGrammar (memberShape d "request_fields")
  responseFields : HoldsList FieldGrammar (memberShape d "response_fields")

/-- The part has the form of a service. -/
structure ServiceGrammar (d : α) : Prop where
  isObject : IsObject d
  name : HoldsText (memberShape d "name")
  methods : HoldsList MethodGrammar (memberShape d "methods")
  distinct : ((memberItems d "methods").map (memberText · "name")).Nodup

/-- The part has the form of a file. -/
structure FileGrammar (d : α) : Prop where
  isObject : IsObject d
  name : HoldsText (memberShape d "name")
  package : HoldsOptionalText (memberShape d "package")
  services : HoldsList ServiceGrammar (memberShape d "services")

/-- The document has the form of a schema. -/
structure SchemaGrammar (d : α) : Prop where
  isObject : IsObject d
  files : ∃ items, memberShape d "files" = some (.list items) ∧ ∀ item ∈ items, FileGrammar item

theorem fieldGrammar_iff (d : α) : FieldGrammar d ↔ ∃ f, IsField d f := by
  constructor
  · rintro ⟨hd, hname, hkey, hkind, hoptional, hrepeated⟩
    obtain ⟨name, hname⟩ := holdsText_iff.mp hname
    obtain ⟨key, hkey⟩ := (holdsKey_iff name).mp hkey
    obtain ⟨kind, hkind⟩ := holdsText_iff.mp hkind
    obtain ⟨isOptional, hoptional⟩ := holdsFlag_iff.mp hoptional
    obtain ⟨isRepeated, hrepeated⟩ := holdsFlag_iff.mp hrepeated
    exact ⟨⟨name, key, kind, isOptional, isRepeated⟩, hd, hname, hkey, hkind, hoptional, hrepeated⟩
  · rintro ⟨f, hd, hname, hkey, hkind, hoptional, hrepeated⟩
    exact ⟨hd, holdsText_iff.mpr ⟨_, hname⟩, (holdsKey_iff f.name).mpr ⟨_, hkey⟩,
      holdsText_iff.mpr ⟨_, hkind⟩, holdsFlag_iff.mpr ⟨_, hoptional⟩,
      holdsFlag_iff.mpr ⟨_, hrepeated⟩⟩

variable [DecidableEq T]

theorem methodGrammar_iff (d : α) : MethodGrammar d ↔ ∃ m, IsMethod d m := by
  have hfields (shape : Option (Shape T α)) :
      HoldsList FieldGrammar shape ↔ ∃ fields, IsListOf IsField shape fields :=
    holdsList_iff fieldGrammar_iff
  constructor
  · rintro ⟨hd, hname, hinput, houtput, hlevel, hstreaming, hrequest, hresponse⟩
    obtain ⟨name, hname⟩ := holdsText_iff.mp hname
    obtain ⟨inputType, hinput⟩ := holdsText_iff.mp hinput
    obtain ⟨outputType, houtput⟩ := holdsText_iff.mp houtput
    obtain ⟨level, hlevel⟩ := holdsOptionalText_iff.mp hlevel
    obtain ⟨isStreaming, hstreaming⟩ := holdsFlag_iff.mp hstreaming
    obtain ⟨requestFields, hrequest⟩ := (hfields _).mp hrequest
    obtain ⟨responseFields, hresponse⟩ := (hfields _).mp hresponse
    exact ⟨⟨name, inputType, outputType, isStreaming,
      level == DocumentText.ofString noSideEffects, requestFields, responseFields⟩,
      hd, hname, hinput, houtput, hstreaming, ⟨level, hlevel, rfl⟩, hrequest, hresponse⟩
  · rintro ⟨m, hd, hname, hinput, houtput, hstreaming, ⟨level, hlevel, -⟩, hrequest, hresponse⟩
    exact ⟨hd, holdsText_iff.mpr ⟨_, hname⟩, holdsText_iff.mpr ⟨_, hinput⟩,
      holdsText_iff.mpr ⟨_, houtput⟩, holdsOptionalText_iff.mpr ⟨_, hlevel⟩,
      holdsFlag_iff.mpr ⟨_, hstreaming⟩, (hfields _).mpr ⟨_, hrequest⟩,
      (hfields _).mpr ⟨_, hresponse⟩⟩

theorem IsMethod.memberText_name {d : α} {m : Method T} (h : IsMethod d m) :
    memberText d "name" = some m.name := by
  have hname := h.name
  rw [memberText]
  generalize memberShape d "name" = shape at hname ⊢
  cases hname
  rfl

/-- The methods that are read have the names that stand in the document. -/
theorem map_memberText_name {items : List α} {methods : List (Method T)}
    (h : List.Forall₂ IsMethod items methods) :
    items.map (memberText · "name") = (methods.map Method.name).map some := by
  induction h with
  | nil => rfl
  | cons hfirst _ ih =>
    rw [List.map_cons, List.map_cons, List.map_cons, hfirst.memberText_name, ih]

theorem nodup_memberText_iff {d : α} {methods : List (Method T)}
    (h : IsListOf IsMethod (memberShape d "methods") methods) :
    ((memberItems d "methods").map (memberText · "name")).Nodup ↔
      (methods.map Method.name).Nodup := by
  rw [map_memberText_name h.forall₂]
  exact List.nodup_map_iff fun _ _ => Option.some.inj

theorem serviceGrammar_iff (d : α) : ServiceGrammar d ↔ ∃ s, IsService d s := by
  constructor
  · rintro ⟨hd, hname, hmethods, hdistinct⟩
    obtain ⟨name, hname⟩ := holdsText_iff.mp hname
    obtain ⟨methods, hmethods⟩ := (holdsList_iff methodGrammar_iff).mp hmethods
    exact ⟨⟨name, methods⟩, hd, hname, hmethods, (nodup_memberText_iff hmethods).mp hdistinct⟩
  · rintro ⟨s, hd, hname, hmethods, hdistinct⟩
    exact ⟨hd, holdsText_iff.mpr ⟨_, hname⟩, (holdsList_iff methodGrammar_iff).mpr ⟨_, hmethods⟩,
      (nodup_memberText_iff hmethods).mpr hdistinct⟩

theorem fileGrammar_iff (d : α) : FileGrammar d ↔ ∃ f, IsFile d f := by
  constructor
  · rintro ⟨hd, hname, hpackage, hservices⟩
    obtain ⟨name, hname⟩ := holdsText_iff.mp hname
    obtain ⟨package, hpackage⟩ := holdsOptionalText_iff.mp hpackage
    obtain ⟨services, hservices⟩ := (holdsList_iff serviceGrammar_iff).mp hservices
    exact ⟨⟨name, package, services⟩, hd, hname, hpackage, hservices⟩
  · rintro ⟨f, hd, hname, hpackage, hservices⟩
    exact ⟨hd, holdsText_iff.mpr ⟨_, hname⟩, holdsOptionalText_iff.mpr ⟨_, hpackage⟩,
      (holdsList_iff serviceGrammar_iff).mpr ⟨_, hservices⟩⟩

theorem schemaGrammar_iff (d : α) : SchemaGrammar d ↔ ∃ files, IsSchema d files := by
  constructor
  · rintro ⟨hd, items, hitems, hfiles⟩
    obtain ⟨files, hfiles⟩ := exists_forall₂_iff.mpr fun item hitem =>
      (fileGrammar_iff item).mp (hfiles item hitem)
    exact ⟨files, hd, items, hitems, hfiles⟩
  · rintro ⟨files, hd, items, hitems, hfiles⟩
    exact ⟨hd, items, hitems, fun item hitem =>
      (fileGrammar_iff item).mpr (exists_forall₂_iff.mp ⟨files, hfiles⟩ item hitem)⟩

/-! ## Writing -/

/-- The document of a field. -/
def fieldDocument (f : Field T) : DocumentTree T :=
  .object [("name", .text f.name), ("json_name", .text f.jsonName), ("kind", .text f.kind),
    ("optional", .bool f.isOptional), ("repeated", .bool f.isRepeated)]

/-- The document of a method. -/
def methodDocument (m : Method T) : DocumentTree T :=
  .object [("name", .text m.name), ("input_type", .text m.inputType),
    ("output_type", .text m.outputType),
    ("idempotency_level",
      if m.isIdempotent then .text (DocumentText.ofString noSideEffects) else .null),
    ("server_streaming", .bool m.isStreaming),
    ("request_fields", .list (m.requestFields.map fieldDocument)),
    ("response_fields", .list (m.responseFields.map fieldDocument))]

/-- The document of a service. -/
def serviceDocument (s : Service T) : DocumentTree T :=
  .object [("name", .text s.name), ("methods", .list (s.methods.map methodDocument))]

/-- The document of a file. -/
def fileDocument (f : File T) : DocumentTree T :=
  .object [("name", .text f.name), ("package", .text f.package),
    ("services", .list (f.services.map serviceDocument))]

/-- The document of a schema. -/
def schemaDocument (files : List (File T)) : DocumentTree T :=
  .object [("files", .list (files.map fileDocument))]

/-- No name of the field is empty. -/
structure Field.Writable (f : Field T) : Prop where
  name : f.name ≠ DocumentText.ofString ""
  jsonName : f.jsonName ≠ DocumentText.ofString ""
  kind : f.kind ≠ DocumentText.ofString ""

/-- No name of the method is empty. -/
structure Method.Writable (m : Method T) : Prop where
  name : m.name ≠ DocumentText.ofString ""
  inputType : m.inputType ≠ DocumentText.ofString ""
  outputType : m.outputType ≠ DocumentText.ofString ""
  requestFields : ∀ f ∈ m.requestFields, f.Writable
  responseFields : ∀ f ∈ m.responseFields, f.Writable

/-- No name of the service is empty, and its methods have different names. -/
structure Service.Writable (s : Service T) : Prop where
  name : s.name ≠ DocumentText.ofString ""
  methods : ∀ m ∈ s.methods, m.Writable
  distinct : (s.methods.map Method.name).Nodup

/-- No name of the file is empty, but perhaps that of its package. -/
structure File.Writable (f : File T) : Prop where
  name : f.name ≠ DocumentText.ofString ""
  services : ∀ s ∈ f.services, s.Writable

omit [DecidableEq T] in
theorem isField_fieldDocument {f : Field T} (h : f.Writable) : IsField (fieldDocument f) f := by
  refine ⟨isObject_object _, ?_, ?_, ?_, ?_, ?_⟩ <;> rw [fieldDocument, memberShape_object]
  · exact .text h.name
  · exact .text h.jsonName
  · exact .text h.kind
  · exact .bool _
  · exact .bool _

theorem isMethod_methodDocument {m : Method T} (h : m.Writable) :
    IsMethod (methodDocument m) m := by
  refine ⟨isObject_object _, ?_, ?_, ?_, ?_, ?_, ?_, ?_⟩ <;>
    rw [methodDocument, memberShape_object]
  · exact .text h.name
  · exact .text h.inputType
  · exact .text h.outputType
  · exact .bool _
  · cases m.isIdempotent with
    | true => exact ⟨_, .text _, by simp⟩
    | false => exact ⟨_, .null, by simp [DocumentText.ofString_inj, noSideEffects]⟩
  · exact isListOf_map fun f hf => isField_fieldDocument (h.requestFields f hf)
  · exact isListOf_map fun f hf => isField_fieldDocument (h.responseFields f hf)

theorem isService_serviceDocument {s : Service T} (h : s.Writable) :
    IsService (serviceDocument s) s := by
  refine ⟨isObject_object _, ?_, ?_, h.distinct⟩ <;> rw [serviceDocument, memberShape_object]
  · exact .text h.name
  · exact isListOf_map fun m hm => isMethod_methodDocument (h.methods m hm)

theorem isFile_fileDocument {f : File T} (h : f.Writable) : IsFile (fileDocument f) f := by
  refine ⟨isObject_object _, ?_, ?_, ?_⟩ <;> rw [fileDocument, memberShape_object]
  · exact .text h.name
  · exact .text _
  · exact isListOf_map fun s hs => isService_serviceDocument (h.services s hs)

/-- Reading the document of a schema gives the schema back. -/
theorem readSchema_schemaDocument {files : List (File T)} (h : ∀ f ∈ files, f.Writable) :
    readSchema (schemaDocument files) = .ok files := by
  rw [readSchema_ok_iff]
  refine ⟨isObject_object _, files.map fileDocument, ?_, ?_⟩
  · rw [schemaDocument, memberShape_object]
    rfl
  · rw [List.forall₂_map_left_iff, List.forall₂_same]
    exact fun f hf => isFile_fileDocument (h f hf)

/-- **Reading accepts the grammar and mirrors the document.** -/
theorem readSchema_mirrors :
    ∀ (T : Type) [DecidableEq T] [DocumentText T],
      (∀ (α : Type) [Document T α] (d : α),
        ((∃ files, readSchema d = .ok files) ↔ SchemaGrammar d) ∧
          ∀ files, readSchema d = .ok files ↔ IsSchema d files) ∧
        ∀ files : List (File T), (∀ f ∈ files, f.Writable) →
          readSchema (schemaDocument files) = .ok files := by
  intro T _ _
  refine ⟨fun α _ d => ⟨?_, fun files => readSchema_ok_iff⟩, fun files => readSchema_schemaDocument⟩
  simp only [readSchema_ok_iff, schemaGrammar_iff]

/-- A file without a package whose service has a method without side effects and a streaming one. -/
def clockFile : File :=
  ⟨"clock.proto", "", [⟨"Clock",
    [⟨"Now", "Zone", "Time", false, true, [⟨"zone_name", "zone", "string", true, false⟩],
        [⟨"hours", "hours", "int32", false, true⟩]⟩,
      ⟨"Tick", "Zone", "Time", true, false, [], []⟩]⟩, ⟨"Empty", []⟩]⟩

theorem writable_clockFile : clockFile.Writable := by
  have hzone : Field.Writable ⟨"zone_name", "zone", "string", true, false⟩ :=
    ⟨by decide, by decide, by decide⟩
  have hhours : Field.Writable ⟨"hours", "hours", "int32", false, true⟩ :=
    ⟨by decide, by decide, by decide⟩
  refine ⟨by decide, List.forall_mem_cons.mpr ⟨⟨by decide, ?_, by decide⟩, ?_⟩⟩
  · refine List.forall_mem_cons.mpr ⟨⟨by decide, by decide, by decide, ?_, ?_⟩, ?_⟩
    · exact List.forall_mem_singleton.mpr hzone
    · exact List.forall_mem_singleton.mpr hhours
    · exact List.forall_mem_singleton.mpr ⟨by decide, by decide, by decide, by simp, by simp⟩
  · exact List.forall_mem_singleton.mpr ⟨by decide, by simp, by decide⟩

theorem readSchema_mirrors_clockFile :
    (∀ f ∈ [clockFile], f.Writable) ∧ readSchema (schemaDocument [clockFile]) = .ok [clockFile] ∧
      SchemaGrammar (schemaDocument [clockFile]) := by
  obtain ⟨haccepts, hback⟩ := readSchema_mirrors String
  have hwritable : ∀ f ∈ [clockFile], f.Writable :=
    List.forall_mem_singleton.mpr writable_clockFile
  have hread := hback _ hwritable
  exact ⟨hwritable, hread, (haccepts (DocumentTree String) _).1.mp ⟨_, hread⟩⟩

end ConnectRpc.Schema
