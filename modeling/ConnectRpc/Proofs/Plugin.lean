import ConnectRpc.Plugin
import ConnectRpc.Proofs.Descriptor.Conversion
import ConnectRpc.Proofs.Stub.Members

/-!
# Answers of the plugin

An answer has an error or files, never both. It has an error for three reasons only: the parameter
is no profile, a requested file is not there, or a method that stays in one names a message that
none of the files declares (`isSome_error?_iff`, `exists_schemaOf_iff_of_nodup`). Otherwise its
files are the client units of the requested files that declare services, in the order of the
request, and then the runtime's if there is any of these; and the class of each service has exactly
the methods that stay (`respond_allOrNothing`).
-/

namespace ConnectRpc.Plugin

open Descriptor Stub
open Schema (File Method Service)

/-! ## The two kinds of answers -/

/-- The error of an answer. -/
def Response.error? : Response → Option Refusal
  | .units _ => none
  | .refused r => some r

/-- The files of an answer. -/
def Response.files : Response → List SourceUnit
  | .units generated => generated
  | .refused _ => []

theorem respond_of_profile_error {r : Request} {e : ProfileError}
    (h : Profile.ofParameter r.parameter = .error e) : respond r = .refused (.profile e) := by
  rw [respond, h]

theorem respond_of_schema_error {r : Request} {p : Profile} {e : ResolutionError}
    (hp : Profile.ofParameter r.parameter = .ok p) (h : schemaOf r.files r.names = .error e) :
    respond r = .refused (.resolution e) := by
  simp only [respond, hp, h]

theorem respond_of_schema {r : Request} {p : Profile} {schema : List File}
    (hp : Profile.ofParameter r.parameter = .ok p) (h : schemaOf r.files r.names = .ok schema) :
    respond r = .units (units schema p) := by
  simp only [respond, hp, h]

/-- An answer has an error exactly if one of its two parts has. -/
theorem isSome_error?_iff {r : Request} :
    (respond r).error?.isSome ↔ (∃ e, Profile.ofParameter r.parameter = .error e) ∨
      ¬ ∃ schema, schemaOf r.files r.names = .ok schema := by
  cases hp : Profile.ofParameter r.parameter with
  | error e => simp [respond_of_profile_error hp, Response.error?]
  | ok p =>
    cases hs : schemaOf r.files r.names with
    | error e => simp [respond_of_schema_error hp hs, Response.error?]
    | ok schema => simp [respond_of_schema hp hs, Response.error?]

/-! ## Reasons for an error -/

/-- A requested name is that of no file. -/
def LacksFile (r : Request) : Prop := ∃ name ∈ r.names, ∀ file ∈ r.files, file.name ≠ name

/-- A method of a requested file whose clients do not stream has a type that is the full name of no
message. -/
def NamesNoMessage (r : Request) : Prop :=
  ∃ file ∈ r.files, file.name ∈ r.names ∧ ∃ s ∈ file.services, ∃ m ∈ s.methods,
    m.clientStreams = false ∧
      (¬ IsMessageName r.files m.inputType ∨ ¬ IsMessageName r.files m.outputType)

theorem mem_kept_iff {s : ServiceDecl} {m : MethodDecl} :
    m ∈ s.kept ↔ m ∈ s.methods ∧ m.clientStreams = false := by
  simp [ServiceDecl.kept]

variable {r : Request}

theorem exists_schemaOf_iff_of_nodup (h : (r.files.map FileDecl.name).Nodup) :
    (∃ schema, schemaOf r.files r.names = .ok schema) ↔ ¬ LacksFile r ∧ ¬ NamesNoMessage r := by
  rw [exists_schemaOf_iff]
  simp only [fileNamed_ok_iff, find?_reverse_eq h, find?_key_iff h, ServiceDecl.Resolves,
    mem_kept_iff, find?_indexOf_isSome_iff]
  constructor
  · intro hall
    constructor
    · rintro ⟨name, hname, hnone⟩
      obtain ⟨file, ⟨hfile, heq⟩, -⟩ := hall name hname
      exact hnone file hfile heq
    · rintro ⟨file, hfile, hname, s, hs, m, hm, hstays, hunknown⟩
      obtain ⟨file', ⟨hfile', heq⟩, hfinds⟩ := hall file.name hname
      obtain rfl : file' = file := List.inj_on_of_nodup_map h hfile' hfile heq
      obtain ⟨hinput, houtput⟩ := hfinds s hs m ⟨hm, hstays⟩
      exact hunknown.elim (· hinput) (· houtput)
  · rintro ⟨hthere, hknown⟩ name hname
    have hfile : ∃ file ∈ r.files, file.name = name := by
      by_contra hnone
      exact hthere ⟨name, hname, by simpa using hnone⟩
    obtain ⟨file, hfile, rfl⟩ := hfile
    refine ⟨file, ⟨hfile, rfl⟩, fun s hs m hm => ?_⟩
    by_contra hunknown
    exact hknown ⟨file, hfile, hname, s, hs, m, hm.1, hm.2, not_and_or.mp hunknown⟩

/-! ## Files of an answer -/

/-- The class has the name and the path of the service and, in their order, the methods whose
clients do not stream. -/
structure ClassOf (package : String) (d : ServiceDecl) (v : ServiceView) : Prop where
  className : v.className = Stub.className d.name
  path : v.path = if package = "" then d.name else package ++ "." ++ d.name
  methods : v.methods.map MethodView.name =
    (d.methods.filter (!·.clientStreams)).map MethodDecl.name

/-- The unit is the client unit of the file: it lies at the place of the file and has one class for
each of its services. -/
def IsClientOf (p : Profile) (d : FileDecl) (u : SourceUnit) : Prop :=
  ∃ file : File, u = clientUnit file p ∧ u.name = clientPath d.name p ∧
    List.Forall₂ (ClassOf d.package) d.services (ClientView.of file p).services

/-- The requested files that declare services, in the order of the request. -/
def declaring (r : Request) : List FileDecl :=
  (r.names.filterMap fun name => r.files.find? (·.name == name)).filter (!·.services.isEmpty)

theorem map_name_claimNames (views : List MethodView) :
    (claimNames views).map MethodView.name = views.map MethodView.name := by
  have h := congrArg (List.map MethodView.name) (map_unnamed_claimNames views)
  rwa [List.map_map, List.map_map] at h

theorem classOf_of_serviceOf (package : String) {d : ServiceDecl} {s : Service}
    (h : ServiceOf d s) : ClassOf package d (ServiceView.of package s) where
  className := congrArg Stub.className h.name
  path := by rw [ServiceView.of, Service.path, h.name]
  methods := by
    rw [ServiceView.of, map_name_claimNames, List.map_map]
    exact h.methods

theorem isClientOf_of_fileOf (p : Profile) {d : FileDecl} {file : File} (h : FileOf d file) :
    IsClientOf p d (clientUnit file p) := by
  refine ⟨file, rfl, congrArg (clientPath · p) h.name, ?_⟩
  rw [ClientView.of, List.forall₂_map_right_iff, h.package]
  exact h.services.imp fun _ _ => classOf_of_serviceOf d.package

theorem hasServices_of_fileOf {d : FileDecl} {file : File} (h : FileOf d file) :
    hasServices file = !d.services.isEmpty := by
  have hlength := h.services.length_eq
  rw [hasServices, Bool.eq_iff_iff]
  simp [← List.length_eq_zero_iff, hlength]

/-- The client units of a schema are those of the requested files that declare services. -/
theorem forall₂_clientUnits (p : Profile) {files : List FileDecl} {names : List String}
    {schema : List File}
    (h : List.Forall₂ (fun name file =>
      ∃ d, files.find? (·.name == name) = some d ∧ FileOf d file) names schema) :
    List.Forall₂ (IsClientOf p)
      ((names.filterMap fun name => files.find? (·.name == name)).filter (!·.services.isEmpty))
      (clientUnits schema p) := by
  induction h with
  | nil => exact .nil
  | @cons name file names schema hfirst _ ih =>
    obtain ⟨d, hd, hfile⟩ := hfirst
    rw [List.filterMap_cons, hd, List.filter_cons, clientUnits, List.filter_cons,
      hasServices_of_fileOf hfile]
    cases d.services.isEmpty with
    | true => exact ih
    | false => exact .cons (isClientOf_of_fileOf p hfile) ih

/-- An answer has an error and no files, for one of three reasons, or it has all files. -/
structure AllOrNothing (r : Request) : Prop where
  error_iff : (respond r).error?.isSome ↔
    (∃ e, Profile.ofParameter r.parameter = .error e) ∨ LacksFile r ∨ NamesNoMessage r
  nothing : (respond r).error?.isSome → (respond r).files = []
  all : (respond r).error? = none → ∃ p, Profile.ofParameter r.parameter = .ok p ∧
    ∃ clients, List.Forall₂ (IsClientOf p) (declaring r) clients ∧
      (respond r).files = clients ++ if clients = [] then [] else [runtimeUnit p]

/-- **The plugin answers with an error or with everything that was asked for.** -/
theorem respond_allOrNothing (h : (r.files.map FileDecl.name).Nodup) : AllOrNothing r := by
  refine ⟨?_, ?_, ?_⟩
  · rw [isSome_error?_iff, exists_schemaOf_iff_of_nodup h, ← not_or, not_not]
  · cases respond r with
    | units generated => simp [Response.error?]
    | refused e => intro _; rfl
  · intro hnone
    have hfine : ¬ (respond r).error?.isSome := by simp [hnone]
    rw [isSome_error?_iff, not_or, not_not, exists_error_iff, not_not] at hfine
    obtain ⟨⟨p, hp⟩, schema, hschema⟩ := hfine
    refine ⟨p, hp, clientUnits schema p, forall₂_clientUnits p ?_, ?_⟩
    · refine (schemaOf_ok_iff.mp hschema).imp fun name file hfile => ?_
      obtain ⟨d, hd, hmade⟩ := hfile
      rw [fileNamed_ok_iff, find?_reverse_eq h] at hd
      exact ⟨d, hd, fileOf_ok hmade⟩
    · rw [respond_of_schema hp hschema, Response.files, units]
      by_cases hclients : clientUnits schema p = [] <;> simp [hclients]

/-! ## A request -/

/-- A file of messages, and one whose service has a method that is left out, with a type that is not
there, and a method that takes a message declared inside another. -/
def noteFiles : List FileDecl :=
  [⟨"shop/note.proto", "shop", "proto3", [bareMessage "Note" [bareMessage "Line" []]], []⟩,
    ⟨"notes.proto", "", "proto3", [],
      [⟨"Notes", [⟨"Upload", ".shop.Nothing", ".shop.Note", true, false, none⟩,
        ⟨"Find", ".shop.Note.Line", ".shop.Note", false, false, none⟩]⟩]⟩]

/-- A request for both files, and for the one with the service once more. -/
def noteRequest : Request where
  names := ["notes.proto", "shop/note.proto", "notes.proto"]
  parameter := " , client_suffix = _rpc"
  files := noteFiles

theorem not_namesNoMessage_noteRequest : ¬ NamesNoMessage noteRequest := by
  have hnote : IsMessageName noteFiles ".shop.Note" :=
    ⟨_, List.mem_cons_self, ["Note"], _, .here List.mem_cons_self, by decide⟩
  have hline : IsMessageName noteFiles ".shop.Note.Line" :=
    ⟨_, List.mem_cons_self, ["Note", "Line"], _,
      .inside List.mem_cons_self (.here List.mem_cons_self), by decide⟩
  rintro ⟨file, hfile, -, s, hs, m, hm, hstays, hunknown⟩
  simp only [noteRequest, noteFiles, List.mem_cons, List.not_mem_nil, or_false] at hfile
  rcases hfile with rfl | rfl
  · cases hs
  · simp only [List.mem_singleton] at hs
    subst hs
    simp only [List.mem_cons, List.not_mem_nil, or_false] at hm
    rcases hm with rfl | rfl
    · cases hstays
    · exact hunknown.elim (· hline) (· hnote)

/-- The type of the method that is left out does not matter, and the file that is asked for twice
has two units. -/
theorem respond_allOrNothing_noteRequest :
    (noteRequest.files.map FileDecl.name).Nodup ∧ AllOrNothing noteRequest ∧
      (respond noteRequest).error? = none ∧ (respond noteRequest).files.length = 3 := by
  have hnames : (noteRequest.files.map FileDecl.name).Nodup := by decide
  have hall := respond_allOrNothing hnames
  have hprofile : (Profile.ofParameter noteRequest.parameter).isOk = true := by decide +kernel
  have hthere : ∀ name ∈ noteRequest.names, ∃ file ∈ noteRequest.files, file.name = name := by
    decide
  have hnone : (respond noteRequest).error? = none := by
    rw [← Option.not_isSome_iff_eq_none, hall.error_iff]
    rintro (⟨e, he⟩ | ⟨name, hname, hlacks⟩ | hunknown)
    · rw [he] at hprofile
      cases hprofile
    · obtain ⟨file, hfile, heq⟩ := hthere name hname
      exact hlacks file hfile heq
    · exact not_namesNoMessage_noteRequest hunknown
  obtain ⟨p, -, clients, hclients, hfiles⟩ := hall.all hnone
  refine ⟨hnames, hall, hnone, ?_⟩
  have hlength : clients.length = 2 := hclients.length_eq.symm.trans (by decide)
  rw [hfiles, if_neg (by rintro rfl; cases hlength), List.length_append, hlength]
  rfl

end ConnectRpc.Plugin
