import ConnectRpc.Proofs.Schema.Reading

/-!
# Schemas of characters

Stubs are made of schemas whose texts are of characters, while a document may be made of other
texts. Each text of characters is one of these, too (`DocumentText.ofString`), and so each schema of
characters is among the schemas that documents hold (`File.embed`).

A schema that has been read is handed on exactly if it is one of them (`mapM_texts?_eq_some_iff`).
So the documents that stubs are made from are those that are read as `files.map File.embed` for some
files of characters.
-/

namespace ConnectRpc

/-! ## Texts -/

namespace Text

theorem chars?_eq_some_iff {points : List Point} {cs : List Char} :
    chars? points = some cs ↔ points = cs.map .char := by
  constructor
  · intro h
    induction points generalizing cs with
    | nil =>
      cases h
      rfl
    | cons p rest ih =>
      cases p with
      | char c =>
        obtain ⟨cs', hrest, rfl⟩ := Option.map_eq_some_iff.mp h
        rw [ih hrest, List.map_cons]
      | half half => cases h
  · rintro rfl
    exact chars?_map_char cs

theorem characters?_eq_some_iff {points : List Point} {s : String} :
    characters? points = some s ↔ points = pointsOf s := by
  simp only [characters?, Option.map_eq_some_iff, chars?_eq_some_iff]
  constructor
  · rintro ⟨cs, rfl, rfl⟩
    rw [pointsOf, String.toList_ofList]
  · rintro rfl
    exact ⟨s.toList, rfl, String.ofList_toList⟩

end Text

namespace Schema

variable {T : Type} [DocumentText T]

namespace DocumentText

/-- The text of characters that a text is, if it is one. -/
def characters? (t : T) : Option String := Text.characters? (points t)

theorem characters?_eq_some_iff {t : T} {s : String} : characters? t = some s ↔ t = ofString s := by
  rw [characters?, Text.characters?_eq_some_iff, ← points_ofString (T := T)]
  exact ⟨points_inj t _, fun h => h ▸ rfl⟩

@[simp] theorem characters?_ofString (s : String) : characters? (ofString s : T) = some s :=
  characters?_eq_some_iff.mpr rfl

/-- The derived key of a name of characters is the one among the texts of characters. -/
theorem jsonName_ofString (name : String) :
    jsonName (ofString name : T) = ofString (Schema.jsonName name) := by
  apply points_inj
  rw [points_jsonName, points_ofString, points_ofString, jsonNamePoints_pointsOf]

end DocumentText

/-! ## Schemas -/

open DocumentText (ofString)

/-- The field among those that documents hold. -/
def Field.embed (f : Field) : Field T :=
  { f with name := ofString f.name, jsonName := ofString f.jsonName, kind := ofString f.kind }

/-- The method among those that documents hold. -/
def Method.embed (m : Method) : Method T :=
  { m with
    name := ofString m.name, inputType := ofString m.inputType, outputType := ofString m.outputType,
    requestFields := m.requestFields.map Field.embed,
    responseFields := m.responseFields.map Field.embed }

/-- The service among those that documents hold. -/
def Service.embed (s : Service) : Service T :=
  { name := ofString s.name, methods := s.methods.map Method.embed }

/-- The file among those that documents hold. -/
def File.embed (file : File) : File T :=
  { name := ofString file.name, package := ofString file.package,
    services := file.services.map Service.embed }

theorem methodsOf_map_embed (files : List File) :
    methodsOf (files.map File.embed : List (File T)) = (methodsOf files).map Method.embed := by
  have hservices : (files.map File.embed : List (File T)).flatMap File.services =
      (files.flatMap File.services).map Service.embed := by
    rw [List.flatMap_map, List.map_flatMap]
    rfl
  rw [methodsOf, hservices, List.flatMap_map, methodsOf, List.map_flatMap]
  rfl

/-! ## Schemas that are handed on -/

/-- Items are replaced by those that they come from. -/
theorem mapM_eq_some_iff {α β : Type} {back? : α → Option β} {embed : β → α}
    (h : ∀ a b, back? a = some b ↔ a = embed b) {as : List α} {bs : List β} :
    as.mapM back? = some bs ↔ as = bs.map embed := by
  induction as generalizing bs with
  | nil => simp [eq_comm]
  | cons a rest ih =>
    simp only [List.mapM_cons, Option.bind_eq_bind, Option.bind_eq_some_iff, Option.pure_def,
      Option.some_inj, h, ih]
    constructor
    · rintro ⟨b, rfl, bs', rfl, rfl⟩
      rfl
    · intro hbs
      obtain ⟨b, bs', rfl, rfl, rfl⟩ := List.map_eq_cons_iff.mp hbs.symm
      exact ⟨b, rfl, bs', rfl, rfl⟩

theorem Field.texts?_eq_some_iff {g : Field T} {f : Field} :
    g.texts? DocumentText.characters? = some f ↔ g = f.embed := by
  simp only [Field.texts?, Option.bind_eq_bind, Option.bind_eq_some_iff, Option.pure_def,
    Option.some_inj, DocumentText.characters?_eq_some_iff]
  constructor
  · rintro ⟨name, hname, jsonName, hjsonName, kind, hkind, rfl⟩
    rw [Field.embed, ← hname, ← hjsonName, ← hkind]
  · rintro rfl
    exact ⟨_, rfl, _, rfl, _, rfl, rfl⟩

theorem Method.texts?_eq_some_iff {g : Method T} {m : Method} :
    g.texts? DocumentText.characters? = some m ↔ g = m.embed := by
  have hfields : ∀ (read : List (Field T)) (fields : List Field),
      read.mapM (Field.texts? DocumentText.characters?) = some fields ↔
        read = fields.map Field.embed :=
    fun _ _ => mapM_eq_some_iff fun _ _ => Field.texts?_eq_some_iff
  simp only [Method.texts?, Option.bind_eq_bind, Option.bind_eq_some_iff, Option.pure_def,
    Option.some_inj, DocumentText.characters?_eq_some_iff, hfields]
  constructor
  · rintro ⟨name, hname, input, hinput, output, houtput, request, hrequest, response, hresponse,
      rfl⟩
    rw [Method.embed, ← hname, ← hinput, ← houtput, ← hrequest, ← hresponse]
  · rintro rfl
    exact ⟨_, rfl, _, rfl, _, rfl, _, rfl, _, rfl, rfl⟩

theorem Service.texts?_eq_some_iff {g : Service T} {s : Service} :
    g.texts? DocumentText.characters? = some s ↔ g = s.embed := by
  have hmethods : ∀ (read : List (Method T)) (methods : List Method),
      read.mapM (Method.texts? DocumentText.characters?) = some methods ↔
        read = methods.map Method.embed :=
    fun _ _ => mapM_eq_some_iff fun _ _ => Method.texts?_eq_some_iff
  simp only [Service.texts?, Option.bind_eq_bind, Option.bind_eq_some_iff, Option.pure_def,
    Option.some_inj, DocumentText.characters?_eq_some_iff, hmethods]
  constructor
  · rintro ⟨name, hname, methods, hmethods, rfl⟩
    rw [Service.embed, ← hname, ← hmethods]
  · rintro rfl
    exact ⟨_, rfl, _, rfl, rfl⟩

theorem File.texts?_eq_some_iff {g : File T} {file : File} :
    g.texts? DocumentText.characters? = some file ↔ g = file.embed := by
  have hservices : ∀ (read : List (Service T)) (services : List Service),
      read.mapM (Service.texts? DocumentText.characters?) = some services ↔
        read = services.map Service.embed :=
    fun _ _ => mapM_eq_some_iff fun _ _ => Service.texts?_eq_some_iff
  simp only [File.texts?, Option.bind_eq_bind, Option.bind_eq_some_iff, Option.pure_def,
    Option.some_inj, DocumentText.characters?_eq_some_iff, hservices]
  constructor
  · rintro ⟨name, hname, package, hpackage, services, hservices, rfl⟩
    rw [File.embed, ← hname, ← hpackage, ← hservices]
  · rintro rfl
    exact ⟨_, rfl, _, rfl, _, rfl, rfl⟩

end Schema

end ConnectRpc
