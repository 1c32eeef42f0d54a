import ConnectRpc.Proofs.Success
import ConnectRpc.Schema.Document
import Mathlib.Data.List.Nodup

/-!
# What a schema document says

The reading functions go through a document and stop at its first fault. This module says what they
read without following them: which forms a member may have and what it stands for then (`IsText`,
`IsOptionalText`, `IsFlag`, `IsKey`, `IsList`, one constructor for each form), and from these what a
field, a method, a service, a file and a schema look like in a document (`IsField` and so on).

Each reading function is compared with its predicate in both directions, so that a document is
accepted exactly if some schema stands in it, and then that schema is the one that is read
(`readSchema_ok_iff`). Places serve the errors only; what is read depends on none of them.

The last section lines the methods of an accepted schema up with the parts of the document they were
read from (`IsSchema.forall₂_methodParts`).
-/

namespace ConnectRpc.Schema

variable {T α : Type}

/-! ## Forms of a member -/

section

variable [DocumentText T]

/-- The member is a text with characters in it. -/
inductive IsText : Option (Shape T α) → T → Prop where
  | text {s : T} (nonempty : s ≠ DocumentText.ofString "") : IsText (some (.text s)) s

/-- The member is a text; one that is missing or null is empty. -/
inductive IsOptionalText : Option (Shape T α) → T → Prop where
  | missing : IsOptionalText none (DocumentText.ofString "")
  | null : IsOptionalText (some .null) (DocumentText.ofString "")
  | text (s : T) : IsOptionalText (some (.text s)) s

/-- The member is a truth value; one that is missing is false. -/
inductive IsFlag : Option (Shape T α) → Bool → Prop where
  | missing : IsFlag none false
  | bool (b : Bool) : IsFlag (some (.bool b)) b

/-- The member is the key of a field; one that is missing or null follows from the field's name. -/
inductive IsKey (name : T) : Option (Shape T α) → T → Prop where
  | missing : IsKey name none (DocumentText.jsonName name)
  | null : IsKey name (some .null) (DocumentText.jsonName name)
  | text {s : T} (nonempty : s ≠ DocumentText.ofString "") : IsKey name (some (.text s)) s

theorem IsText.ne_empty {shape : Option (Shape T α)} {s : T} (h : IsText shape s) :
    s ≠ DocumentText.ofString "" := by
  cases h with
  | text nonempty => exact nonempty

end

/-- The member is a list; one that is missing is empty. -/
inductive IsList : Option (Shape T α) → List α → Prop where
  | missing : IsList none []
  | list (items : List α) : IsList (some (.list items)) items

/-- The member is a list of parts that each stand for something. -/
def IsListOf {β : Type} (Stands : α → β → Prop) (shape : Option (Shape T α)) (bs : List β) : Prop :=
  ∃ items, IsList shape items ∧ List.Forall₂ Stands items bs

/-! ## Lists of parts -/

section

variable {β : Type} {read : Place → α → Except (DocumentError T) β} {Stands : α → β → Prop}

theorem readItems_ok_iff (hread : ∀ place d b, read place d = .ok b ↔ Stands d b) {place : Place}
    {index : Nat} {items : List α} {bs : List β} :
    readItems read place index items = .ok bs ↔ List.Forall₂ Stands items bs := by
  induction items generalizing index bs with
  | nil =>
    rw [readItems, Except.ok.injEq, List.forall₂_nil_left_iff, eq_comm]
  | cons d rest ih =>
    simp only [readItems, bind_ok_iff, pure_ok_iff, hread, ih, List.forall₂_cons_left_iff]
    constructor
    · rintro ⟨b, hb, bs', hbs, rfl⟩
      exact ⟨b, bs', hb, hbs, rfl⟩
    · rintro ⟨b, bs', hb, hbs, rfl⟩
      exact ⟨b, hb, bs', hbs, rfl⟩

end

variable [Document T α]

/-! ## Parts of a document -/

/-- The part is an object. -/
def IsObject (d : α) : Prop := ∃ entries, Document.shape d = .map entries

/-- What the member of a part under a key looks like, if the part is an object that has one. -/
def memberShape (d : α) (key : String) : Option (Shape T α) :=
  match Document.shape d with
  | .map entries => (Entries.get? entries key).map Document.shape
  | _ => none

theorem memberShape_of_map {d : α} {entries : Entries α} (h : Document.shape d = .map entries)
    (key : String) : memberShape d key = (entries.get? key).map Document.shape := by
  simp only [memberShape, h]

theorem readObject_ok_iff {place : Place} {d : α} {entries : Entries α} :
    readObject place d = .ok entries ↔ Document.shape d = .map entries := by
  unfold readObject
  constructor
  · intro h
    split at h
    · next hshape => cases h; exact hshape
    · cases h
  · intro h
    rw [h]

/-- The items of a member that is a list. -/
def memberItems (d : α) (key : String) : List α :=
  match memberShape d key with
  | some (.list items) => items
  | _ => []

/-- The parts of a document that stand for methods. -/
def methodParts (d : α) : List α :=
  ((memberItems d "files").flatMap (memberItems · "services")).flatMap (memberItems · "methods")

theorem memberItems_of_isList {d : α} {key : String} {items : List α}
    (h : IsList (memberShape d key) items) : memberItems d key = items := by
  unfold memberItems
  generalize memberShape d key = shape at h ⊢
  cases h <;> rfl

theorem IsListOf.forall₂ {β : Type} {Stands : α → β → Prop} {d : α} {key : String} {bs : List β}
    (h : IsListOf Stands (memberShape d key) bs) : List.Forall₂ Stands (memberItems d key) bs := by
  obtain ⟨items, hitems, hstands⟩ := h
  rwa [memberItems_of_isList hitems]

/-! ## Documents written down -/

/-- A document that is written down part by part. -/
inductive DocumentTree (T : Type) where
  | null
  | bool (b : Bool)
  | text (s : T)
  | list (items : List (DocumentTree T))
  | object (members : List (String × DocumentTree T))

instance : Document T (DocumentTree T) where
  shape
    | .null => .null
    | .bool b => .bool b
    | .text s => .text s
    | .list items => .list items
    | .object members => .map members

theorem isObject_object (members : List (String × DocumentTree T)) :
    IsObject (DocumentTree.object members) := ⟨_, rfl⟩

theorem memberShape_object (members : List (String × DocumentTree T)) (key : String) :
    memberShape (DocumentTree.object members) key =
      ((members.find? (·.1 == key)).map (·.2)).map Document.shape := rfl

/-- A list of documents stands for what they were written for. -/
theorem isListOf_map {β : Type} {Stands : DocumentTree T → β → Prop}
    {write : β → DocumentTree T} {bs : List β} (h : ∀ b ∈ bs, Stands (write b) b) :
    IsListOf Stands (some (.list (bs.map write) : Shape T (DocumentTree T))) bs := by
  refine ⟨_, .list _, ?_⟩
  rw [List.forall₂_map_left_iff, List.forall₂_same]
  exact h

/-! ## Members -/

section

variable {place : Place} {d : Option α}

theorem readFlag_ok_iff {b : Bool} :
    readFlag place d = .ok b ↔ IsFlag (d.map Document.shape) b := by
  unfold readFlag
  constructor
  · intro h
    split at h
    · next hshape => cases h; rw [hshape]; exact .missing
    · next hshape => cases h; rw [hshape]; exact .bool _
    · cases h
  · generalize d.map Document.shape = shape
    intro h
    cases h <;> rfl

theorem readList_ok_iff {items : List α} :
    readList place d = .ok items ↔ IsList (d.map Document.shape) items := by
  unfold readList
  cases d with
  | none =>
    constructor
    · intro h; cases h; exact .missing
    · intro h; cases h; rfl
  | some d =>
    simp only [Option.map_some]
    constructor
    · intro h
      split at h
      · next hshape => cases h; rw [hshape]; exact .list _
      · cases h
    · generalize Document.shape d = shape
      intro h
      cases h
      rfl

end

variable [DocumentText T]

section

variable {place : Place} {d : Option α}

theorem readOptionalText_ok_iff {s : T} :
    readOptionalText place d = .ok s ↔ IsOptionalText (d.map Document.shape) s := by
  unfold readOptionalText
  constructor
  · intro h
    split at h
    · next hshape => cases h; rw [hshape]; exact .missing
    · next hshape => cases h; rw [hshape]; exact .null
    · next hshape => cases h; rw [hshape]; exact .text _
    · cases h
  · generalize d.map Document.shape = shape
    intro h
    cases h <;> rfl

variable [DecidableEq T]

theorem readText_ok_iff {s : T} :
    readText place d = .ok s ↔ IsText (d.map Document.shape) s := by
  unfold readText
  constructor
  · intro h
    split at h
    · next hshape =>
      rw [hshape]
      split at h
      · cases h
      · next hne =>
        cases h
        exact .text hne
    · cases h
  · generalize d.map Document.shape = shape
    intro h
    cases h with
    | text nonempty => simp [nonempty]

theorem readJsonName_ok_iff {name key : T} :
    readJsonName place name d = .ok key ↔ IsKey name (d.map Document.shape) key := by
  unfold readJsonName
  constructor
  · intro h
    split at h
    · next hshape => cases h; rw [hshape]; exact .missing
    · next hshape => cases h; rw [hshape]; exact .null
    · have htext := readText_ok_iff.mp h
      generalize d.map Document.shape = shape at htext
      cases htext with
      | text nonempty => exact .text nonempty
  · intro h
    have hread : ∀ s, IsText (d.map Document.shape) s → readText place d = .ok s :=
      fun _ => readText_ok_iff.mpr
    generalize d.map Document.shape = shape at h hread
    cases h with
    | missing => rfl
    | null => rfl
    | text nonempty => exact hread _ (.text nonempty)

end

variable [DecidableEq T]

/-! ## Parts of a schema -/

/-- The part stands for the field. -/
structure IsField (d : α) (f : Field T) : Prop where
  isObject : IsObject d
  name : IsText (memberShape d "name") f.name
  jsonName : IsKey f.name (memberShape d "json_name") f.jsonName
  kind : IsText (memberShape d "kind") f.kind
  isOptional : IsFlag (memberShape d "optional") f.isOptional
  isRepeated : IsFlag (memberShape d "repeated") f.isRepeated

/-- The part stands for the method. -/
structure IsMethod (d : α) (m : Method T) : Prop where
  isObject : IsObject d
  name : IsText (memberShape d "name") m.name
  inputType : IsText (memberShape d "input_type") m.inputType
  outputType : IsText (memberShape d "output_type") m.outputType
  isStreaming : IsFlag (memberShape d "server_streaming") m.isStreaming
  isIdempotent : ∃ level, IsOptionalText (memberShape d "idempotency_level") level ∧
    m.isIdempotent = (level == DocumentText.ofString noSideEffects)
  requestFields : IsListOf IsField (memberShape d "request_fields") m.requestFields
  responseFields : IsListOf IsField (memberShape d "response_fields") m.responseFields

/-- The part stands for the service; its methods have different names. -/
structure IsService (d : α) (s : Service T) : Prop where
  isObject : IsObject d
  name : IsText (memberShape d "name") s.name
  methods : IsListOf IsMethod (memberShape d "methods") s.methods
  distinct : (s.methods.map Method.name).Nodup

/-- The part stands for the file. -/
structure IsFile (d : α) (f : File T) : Prop where
  isObject : IsObject d
  name : IsText (memberShape d "name") f.name
  package : IsOptionalText (memberShape d "package") f.package
  services : IsListOf IsService (memberShape d "services") f.services

/-- The document stands for the schema. -/
structure IsSchema (d : α) (files : List (File T)) : Prop where
  isObject : IsObject d
  files : ∃ items, memberShape d "files" = some (.list items) ∧ List.Forall₂ IsFile items files

theorem readField_ok_iff (place : Place) (d : α) (f : Field T) :
    readField place d = .ok f ↔ IsField d f := by
  simp only [readField, bind_ok_iff, pure_ok_iff, readObject_ok_iff, readText_ok_iff,
    readFlag_ok_iff, readJsonName_ok_iff]
  constructor
  · rintro ⟨entries, hd, name, hname, isOptional, hoptional, isRepeated, hrepeated, key, hkey,
      kind, hkind, rfl⟩
    simp only [← memberShape_of_map hd] at hname hoptional hrepeated hkey hkind
    exact ⟨⟨entries, hd⟩, hname, hkey, hkind, hoptional, hrepeated⟩
  · rintro ⟨⟨entries, hd⟩, hname, hkey, hkind, hoptional, hrepeated⟩
    simp only [memberShape_of_map hd] at hname hoptional hrepeated hkey hkind
    exact ⟨entries, hd, _, hname, _, hoptional, _, hrepeated, _, hkey, _, hkind, rfl⟩

theorem readFields_ok_iff {place : Place} {d : Option α} {fields : List (Field T)} :
    readFields place d = .ok fields ↔ IsListOf IsField (d.map Document.shape) fields := by
  simp only [readFields, bind_ok_iff, readList_ok_iff, readItems_ok_iff readField_ok_iff, IsListOf]

theorem readMethod_ok_iff (place : Place) (d : α) (m : Method T) :
    readMethod place d = .ok m ↔ IsMethod d m := by
  simp only [readMethod, bind_ok_iff, pure_ok_iff, readObject_ok_iff, readText_ok_iff,
    readFlag_ok_iff, readOptionalText_ok_iff, readFields_ok_iff]
  constructor
  · rintro ⟨entries, hd, level, hlevel, isStreaming, hstreaming, name, hname, inputType, hinput,
      outputType, houtput, requestFields, hrequest, responseFields, hresponse, rfl⟩
    simp only [← memberShape_of_map hd] at hlevel hstreaming hname hinput houtput hrequest hresponse
    exact ⟨⟨entries, hd⟩, hname, hinput, houtput, hstreaming, ⟨level, hlevel, rfl⟩, hrequest,
      hresponse⟩
  · rintro ⟨⟨entries, hd⟩, hname, hinput, houtput, hstreaming, ⟨level, hlevel, hidempotent⟩,
      hrequest, hresponse⟩
    simp only [memberShape_of_map hd] at hlevel hstreaming hname hinput houtput hrequest hresponse
    refine ⟨entries, hd, level, hlevel, _, hstreaming, _, hname, _, hinput, _, houtput, _, hrequest,
      _, hresponse, ?_⟩
    rw [← hidempotent]

theorem isEmpty_duplicates (names : List T) :
    (duplicates names).isEmpty = true ↔ names.Nodup := by
  rw [duplicates, List.isEmpty_iff, List.eq_nil_iff_forall_not_mem, List.nodup_iff_count_le_one]
  simp only [List.mem_mergeSort, List.mem_eraseDups, List.mem_filter, decide_eq_true_eq, not_and,
    Nat.not_lt]
  refine ⟨fun h name => ?_, fun h name _ => h name⟩
  by_cases hmem : name ∈ names
  · exact h name hmem
  · rw [List.count_eq_zero_of_not_mem hmem]
    exact Nat.zero_le 1

theorem readService_ok_iff (place : Place) (d : α) (s : Service T) :
    readService place d = .ok s ↔ IsService d s := by
  simp only [readService, bind_ok_iff, readObject_ok_iff, readList_ok_iff,
    readItems_ok_iff readMethod_ok_iff]
  constructor
  · rintro ⟨entries, hd, items, hitems, methods, hmethods, h⟩
    split at h
    · cases h
    · next hunique =>
      simp only [bind_ok_iff, pure_ok_iff, readText_ok_iff] at h
      obtain ⟨name, hname, rfl⟩ := h
      simp only [Bool.not_eq_true', Bool.not_eq_false, isEmpty_duplicates] at hunique
      simp only [← memberShape_of_map hd] at hitems hname
      exact ⟨⟨entries, hd⟩, hname, ⟨items, hitems, hmethods⟩, hunique⟩
  · rintro ⟨⟨entries, hd⟩, hname, ⟨items, hitems, hmethods⟩, hunique⟩
    simp only [memberShape_of_map hd] at hitems hname
    rw [← isEmpty_duplicates] at hunique
    refine ⟨entries, hd, items, hitems, _, hmethods, ?_⟩
    simp only [hunique, Bool.not_true, Bool.false_eq_true, if_false, bind_ok_iff, pure_ok_iff,
      readText_ok_iff]
    exact ⟨_, hname, rfl⟩

theorem readFile_ok_iff (place : Place) (d : α) (f : File T) :
    readFile place d = .ok f ↔ IsFile d f := by
  simp only [readFile, bind_ok_iff, pure_ok_iff, readObject_ok_iff, readText_ok_iff,
    readOptionalText_ok_iff, readList_ok_iff, readItems_ok_iff readService_ok_iff]
  constructor
  · rintro ⟨entries, hd, items, hitems, name, hname, package, hpackage, services, hservices, rfl⟩
    simp only [← memberShape_of_map hd] at hitems hname hpackage
    exact ⟨⟨entries, hd⟩, hname, hpackage, ⟨items, hitems, hservices⟩⟩
  · rintro ⟨⟨entries, hd⟩, hname, hpackage, ⟨items, hitems, hservices⟩⟩
    simp only [memberShape_of_map hd] at hitems hname hpackage
    exact ⟨entries, hd, items, hitems, _, hname, _, hpackage, _, hservices, rfl⟩

/-- **Reading accepts what stands for a schema**, and reads that schema. -/
theorem readSchema_ok_iff {d : α} {files : List (File T)} :
    readSchema d = .ok files ↔ IsSchema d files := by
  unfold readSchema
  constructor
  · intro h
    split at h
    · next entries hd =>
      split at h
      · next items hitems =>
        rw [← memberShape_of_map hd] at hitems
        exact ⟨⟨entries, hd⟩, items, hitems, (readItems_ok_iff readFile_ok_iff).mp h⟩
      · cases h
    · cases h
  · rintro ⟨⟨entries, hd⟩, items, hitems, hfiles⟩
    rw [memberShape_of_map hd] at hitems
    simp only [hd, hitems]
    exact (readItems_ok_iff readFile_ok_iff).mpr hfiles

/-! ## The methods of a schema -/

/-- The methods of a schema. -/
def methodsOf (files : List (File T)) : List (Method T) :=
  (files.flatMap File.services).flatMap Service.methods

/-- The methods of a schema, one by one with the parts that stand for them. -/
theorem IsSchema.forall₂_methodParts {d : α} {files : List (File T)} (h : IsSchema d files) :
    List.Forall₂ IsMethod (methodParts d) (methodsOf files) := by
  obtain ⟨items, hitems, hfiles⟩ := h.files
  have hlist : IsList (memberShape d "files") items := hitems ▸ .list items
  rw [← memberItems_of_isList hlist] at hfiles
  exact List.rel_flatMap (List.rel_flatMap hfiles fun _ _ hfile => hfile.services.forall₂)
    fun _ _ hservice => hservice.methods.forall₂

end ConnectRpc.Schema
