import ConnectRpc.Proofs.Schema.Characters
import ConnectRpc.Proofs.Stub.RawNames
import ConnectRpc.Proofs.Stub.UnitNames
import Mathlib.Data.List.DropRight

/-!
# Lines of units

A unit is written as a list of lines. How many there are depends on the shape of the schema file
only, not on its names (`sameRows_lines_of`). What the text falls into is another matter, since some
names are written as they stand, and a document may put line breaks in any of them.

Main statement: the text of a unit falls into the lines it is written as exactly if none of these
names holds a line break, and the texts of two files of one shape have the same number of line feeds
exactly if their names hold equally many (`unit_lines_iff`). Nothing keeps line breaks out of names
(`package_breaks_line`).
-/

namespace ConnectRpc.Stub

open Schema Text

/-! ## Lines as text -/

/-- Behind a line that ends in a character that is not blank there are only empty ones. -/
def EndsInText (lines : List String) : Prop :=
  ∃ front last n, lines = front ++ last :: List.replicate n "" ∧
    ∃ init c, last.toList = init ++ [c] ∧ isBlank c = false

/-- The lines without empty ones at their end. -/
def written (lines : List String) : List String := lines.rdropWhile (· == "")

theorem joinPieces_append_cons (sep : Char) (front : List (List Char)) (piece : List Char)
    (rest : List (List Char)) :
    joinPieces sep (front ++ piece :: rest) =
      front.flatMap (· ++ [sep]) ++ joinPieces sep (piece :: rest) := by
  induction front with
  | nil => rfl
  | cons first more ih =>
    rw [List.cons_append, List.flatMap_cons, List.append_assoc, ← ih]
    cases more <;> simp [joinPieces]

theorem joinPieces_cons_replicate (sep : Char) (piece : List Char) (n : Nat) :
    joinPieces sep (piece :: List.replicate n []) = piece ++ List.replicate n sep := by
  induction n generalizing piece with
  | zero => simp [joinPieces]
  | succ n ih =>
    have hrest := ih []
    rw [List.nil_append] at hrest
    rw [List.replicate_succ, joinPieces, hrest, List.replicate_succ]
    simp

theorem toList_textOfLines {lines : List String} (h : EndsInText lines) :
    (textOfLines lines).toList = endedLines (written lines) := by
  obtain ⟨front, last, n, rfl, init, c, hlast, hc⟩ := h
  have hne : (last == "") = false := by
    rw [beq_eq_false_iff_ne]
    rintro rfl
    simp at hlast
  have hwritten : written (front ++ last :: List.replicate n "") = front ++ [last] := by
    rw [written, List.append_cons]
    induction n with
    | zero =>
      rw [List.replicate_zero, List.append_nil]
      exact List.rdropWhile_concat_neg _ _ _ (by simp [hne])
    | succ n ih =>
      rw [List.replicate_succ', ← List.append_assoc, List.rdropWhile_concat_pos _ _ _ rfl, ih]
  have htext : (joinText "\n" (front ++ last :: List.replicate n "")).toList =
      front.flatMap (·.toList ++ ['\n']) ++ (init ++ [c]) ++ List.replicate n '\n' := by
    rw [toList_joinText rfl, List.map_append, List.map_cons, List.map_replicate,
      joinPieces_append_cons, List.flatMap_map, hlast, List.append_assoc]
    exact congrArg _ (joinPieces_cons_replicate '\n' (init ++ [c]) n)
  rw [textOfLines, String.toList_append, String.toList_ofList, htext, hwritten, trimEnd,
    dropTrailing_append_replicate (by decide), ← List.append_assoc, dropTrailing_concat_of_not hc]
  simp [endedLines, hlast]

/-! ## The end of a unit -/

theorem EndsInText.append {lines : List String} (h : EndsInText lines) (front : List String) :
    EndsInText (front ++ lines) := by
  obtain ⟨more, last, n, rfl, hlast⟩ := h
  exact ⟨front ++ more, last, n, by rw [List.append_assoc], hlast⟩

theorem endsInText_cons_replicate {last : String} {init : List Char} {c : Char}
    (hlast : last.toList = init ++ [c]) (hc : isBlank c = false) (n : Nat) :
    EndsInText (last :: List.replicate n "") :=
  ⟨[], last, n, rfl, init, c, hlast, hc⟩

theorem endsInText_flatMap {α : Type} {f : α → List String} (h : ∀ x, EndsInText (f x))
    {xs : List α} (hne : xs ≠ []) : EndsInText (xs.flatMap f) := by
  obtain ⟨front, last, rfl⟩ := (List.eq_nil_or_concat xs).resolve_left hne
  rw [List.concat_eq_append, List.flatMap_append, List.flatMap_singleton]
  exact (h last).append _

theorem endsInText_headLines (v : ClientView) : EndsInText (headLines v) := by
  have hlast : ("from " ++ v.runtimeImport ++
      " import CallResult, CancelToken, ConnectClient, signal").toList =
      ("from " ++ v.runtimeImport ++
        " import CallResult, CancelToken, ConnectClient, signa").toList ++ ['l'] := by
    simp
  exact (endsInText_cons_replicate hlast (by decide) 0).append (headLines v).dropLast

theorem endsInText_methodLines (path : String) (m : MethodView) : EndsInText (m.lines path) := by
  have hlast : "        )".toList = "        ".toList ++ [')'] := by decide
  rw [MethodView.lines]
  exact ((endsInText_cons_replicate hlast (by decide) 0).append [_, _, _, _, _, _, _]).append _

/-- Behind the documentation of a class stands an empty line, and behind the base URL another. -/
theorem endsInText_documentation (path : String) (baseUrl : Option String) :
    EndsInText (["    \"\"\"Connect client for ``" ++ path ++ "``.\"\"\"", ""] ++
      baseUrlLines baseUrl) := by
  have hlast : ("    \"\"\"Connect client for ``" ++ path ++ "``.\"\"\"").toList =
      ("    \"\"\"Connect client for ``" ++ path ++ "``.\"\"").toList ++ ['"'] := by
    simp
  have hplain := endsInText_cons_replicate hlast (by decide) 1
  unfold baseUrlLines
  split
  · exact hplain
  · next url =>
    split
    · exact hplain
    · have hquote : ("    default_base_url = " ++ quote url).toList =
          ("    default_base_url = ".toList ++ quoteFor url.toList ::
            url.toList.flatMap (quoteChar (quoteFor url.toList))) ++ [quoteFor url.toList] := by
        simp [quote, quoteChars]
      have hmark : isBlank (quoteFor url.toList) = false := by
        unfold quoteFor
        split <;> decide
      exact (endsInText_cons_replicate hquote hmark 1).append [_, _]

theorem endsInText_serviceLines (baseUrl : Option String) (s : ServiceView) :
    EndsInText (s.lines baseUrl) := by
  rw [ServiceView.lines]
  by_cases hmethods : s.methods = []
  · have hdocumentation := endsInText_documentation s.path baseUrl
    rw [hmethods, List.map_nil, List.flatMap_nil, List.append_nil, List.append_nil]
    exact hdocumentation.append [_, _, _]
  · exact (endsInText_flatMap (endsInText_methodLines s.path) hmethods).append _

theorem endsInText_lines_of (file : File) (p : Profile) :
    EndsInText (ClientView.of file p).lines := by
  rw [ClientView.lines]
  by_cases hservices : file.services = []
  · have hempty : (ClientView.of file p).services = [] ∧ (ClientView.of file p).messages = [] := by
      simp [ClientView.of, hservices]
    rw [hempty.1, hempty.2, List.flatMap_nil, List.flatMap_nil, List.append_nil, List.append_nil]
    exact endsInText_headLines _
  · refine (endsInText_flatMap (endsInText_serviceLines _) ?_).append _
    simpa [ClientView.of] using hservices

/-! ## Files of one shape -/

/-- Two fields differ in their names only. -/
structure FieldAlike (f g : Field) : Prop where
  kind : f.kind = g.kind
  isOptional : f.isOptional = g.isOptional
  isRepeated : f.isRepeated = g.isRepeated

/-- Two methods differ in their name and in the names of their fields only. -/
structure MethodAlike (m n : Method) : Prop where
  inputType : m.inputType = n.inputType
  outputType : m.outputType = n.outputType
  isStreaming : m.isStreaming = n.isStreaming
  isIdempotent : m.isIdempotent = n.isIdempotent
  requestFields : List.Forall₂ FieldAlike m.requestFields n.requestFields
  responseFields : List.Forall₂ FieldAlike m.responseFields n.responseFields

/-- Two files have the same services, methods and fields, apart from all names but those of message
types. -/
def SameShape (file file' : File) : Prop :=
  List.Forall₂ (fun s t => List.Forall₂ MethodAlike s.methods t.methods)
    file.services file'.services

/-- The lines are equally many, and the same ones are empty. -/
def SameRows : List String → List String → Prop :=
  List.Forall₂ fun line line' => line = "" ↔ line' = ""

theorem SameRows.append {first first' second second' : List String} (h : SameRows first first')
    (h' : SameRows second second') : SameRows (first ++ second) (first' ++ second') :=
  List.rel_append h h'

theorem SameRows.length_written {lines lines' : List String} (h : SameRows lines lines') :
    (written lines).length = (written lines').length := by
  have hreverse : SameRows lines.reverse lines'.reverse := List.rel_reverse h
  rw [written, written, List.rdropWhile, List.rdropWhile, List.length_reverse, List.length_reverse]
  generalize lines.reverse = rows at hreverse
  generalize lines'.reverse = rows' at hreverse
  induction hreverse with
  | nil => rfl
  | cons hline hrest ih =>
    rw [List.dropWhile_cons, List.dropWhile_cons]
    simp only [beq_iff_eq, hline]
    split
    · exact ih
    · rw [List.length_cons, List.length_cons, hrest.length_eq]

theorem sameRows_headLines (v v' : ClientView) : SameRows (headLines v) (headLines v') := by
  simp [SameRows, headLines]

/-- Shapes of one name and equally many fields. -/
structure MessageAlike (m n : MessageView) : Prop where
  name : m.name = n.name
  fields : m.fields.length = n.fields.length

/-- Lines that are never empty. -/
theorem sameRows_map {α β : Type} {f : α → String} {g : β → String} (hf : ∀ a, f a ≠ "")
    (hg : ∀ b, g b ≠ "") {as : List α} {bs : List β} (h : as.length = bs.length) :
    SameRows (as.map f) (bs.map g) := by
  rw [SameRows, List.forall₂_map_left_iff, List.forall₂_map_right_iff, List.forall₂_iff_zip]
  exact ⟨h, fun _ => iff_of_false (hf _) (hg _)⟩

theorem sameRows_messageLines {m n : MessageView} (h : MessageAlike m n) :
    SameRows m.lines n.lines := by
  rw [MessageView.lines, MessageView.lines]
  refine .append (.append ?_ (sameRows_map ?_ ?_ h.fields)) ?_
  all_goals simp [SameRows]

theorem sameRows_fieldLines {f g : FieldView}
    (h : f.omitCondition = "" ↔ g.omitCondition = "") : SameRows f.lines g.lines := by
  unfold FieldView.lines
  dsimp only
  by_cases hempty : f.omitCondition = ""
  · rw [if_pos hempty, if_pos (h.mp hempty)]
    simp [SameRows]
  · rw [if_neg hempty, if_neg (fun hg => hempty (h.mpr hg))]
    simp [SameRows]

/-- Stubs whose lines are equally many. -/
structure ViewAlike (v w : MethodView) : Prop where
  params : v.params.length = w.params.length
  fields : List.Forall₂ (fun f g => f.omitCondition = "" ↔ g.omitCondition = "") v.fields w.fields

theorem sameRows_methodLines (path path' : String) {v w : MethodView} (h : ViewAlike v w) :
    SameRows (v.lines path) (w.lines path') := by
  have hfields : SameRows (v.fields.flatMap FieldView.lines) (w.fields.flatMap FieldView.lines) :=
    List.rel_flatMap h.fields fun _ _ => sameRows_fieldLines
  rw [MethodView.lines, MethodView.lines]
  refine .append (.append (.append (.append ?_ (sameRows_map ?_ ?_ h.params)) ?_) hfields) ?_
  all_goals simp [SameRows]

/-- A base URL is written into classes. -/
def writesUrl (p : Profile) : Bool := p.baseUrl.any (· != "")

theorem sameRows_baseUrlLines {p p' : Profile} (h : writesUrl p = writesUrl p') :
    SameRows (baseUrlLines p.baseUrl) (baseUrlLines p'.baseUrl) := by
  have hcases : ∀ p : Profile, (writesUrl p = false ∧ baseUrlLines p.baseUrl = []) ∨
      (writesUrl p = true ∧
        ∃ url, baseUrlLines p.baseUrl = ["    default_base_url = " ++ quote url, ""]) := by
    intro p
    unfold writesUrl baseUrlLines
    cases p.baseUrl with
    | none => exact .inl ⟨rfl, rfl⟩
    | some url => by_cases hurl : url = "" <;> simp [hurl]
  rcases hcases p with ⟨hp, hlines⟩ | ⟨hp, url, hlines⟩ <;>
    rcases hcases p' with ⟨hp', hlines'⟩ | ⟨hp', url', hlines'⟩
  · rw [hlines, hlines']
    exact .nil
  · simp [hp, hp'] at h
  · simp [hp, hp'] at h
  · rw [hlines, hlines']
    simp [SameRows]

theorem sameRows_serviceLines {p p' : Profile} (hurl : writesUrl p = writesUrl p')
    {s t : ServiceView} (h : List.Forall₂ ViewAlike s.methods t.methods) :
    SameRows (s.lines p.baseUrl) (t.lines p'.baseUrl) := by
  have hmethods : SameRows (s.methods.flatMap (MethodView.lines s.path))
      (t.methods.flatMap (MethodView.lines t.path)) :=
    List.rel_flatMap h fun _ _ => sameRows_methodLines s.path t.path
  rw [ServiceView.lines, ServiceView.lines]
  refine .append (.append (.append ?_ (sameRows_baseUrlLines hurl))
    (sameRows_map ?_ ?_ h.length_eq)) hmethods
  all_goals simp [SameRows]

/-! ## From shapes to lines -/

/-- The fields of requests have names. -/
def FieldsNamed (file : File) : Prop :=
  ∀ s ∈ file.services, ∀ m ∈ s.methods, ∀ f ∈ m.requestFields, f.name ≠ ""

theorem FieldAlike.omitCondition_iff {f g : Field} (h : FieldAlike f g) (hf : f.name ≠ "")
    (hg : g.name ≠ "") :
    (FieldView.of f).omitCondition = "" ↔ (FieldView.of g).omitCondition = "" := by
  have hcategory : categoryOf f = categoryOf g := congrArg Category.ofKind h.kind
  unfold FieldView.of
  dsimp only
  rw [h.isOptional, h.isRepeated, hcategory]
  split
  · exact iff_of_false (identifier_ne_empty hf) (identifier_ne_empty hg)
  split
  · rfl
  · generalize categoryOf g = category
    cases category <;> simp [identifier_ne_empty hf, identifier_ne_empty hg]

theorem FieldAlike.hasDefault_eq {f g : Field} (h : FieldAlike f g) :
    hasDefault f = hasDefault g := by
  rw [hasDefault, hasDefault, h.isOptional, h.isRepeated]

theorem any_not_hasDefault {fields fields' : List Field}
    (h : List.Forall₂ FieldAlike fields fields') :
    fields.any (!hasDefault ·) = fields'.any (!hasDefault ·) := by
  induction h with
  | nil => rfl
  | cons hfirst _ ih => rw [List.any_cons, List.any_cons, ih, hfirst.hasDefault_eq]

theorem length_fieldParams {fields fields' : List Field}
    (h : List.Forall₂ FieldAlike fields fields') (starred : Bool) :
    (fieldParams starred fields).length = (fieldParams starred fields').length := by
  induction h generalizing starred with
  | nil => rfl
  | cons hfirst hrest ih =>
    rw [fieldParams, fieldParams, hfirst.hasDefault_eq, any_not_hasDefault hrest]
    split
    · rw [List.length_cons, List.length_cons, ih, List.length_cons, List.length_cons]
    · rw [List.length_cons, List.length_cons, ih]

theorem forall₂_and_mem {α β : Type} {R : α → β → Prop} {P : α → Prop} {Q : β → Prop}
    {as : List α} {bs : List β} (h : List.Forall₂ R as bs) (hP : ∀ a ∈ as, P a)
    (hQ : ∀ b ∈ bs, Q b) : List.Forall₂ (fun a b => P a ∧ Q b ∧ R a b) as bs := by
  have hright : List.Forall₂ (fun b a => Q b ∧ R a b) bs as :=
    (List.forall₂_and_left _ _).mpr ⟨hQ, h.flip⟩
  exact (List.forall₂_and_left _ _).mpr ⟨hP, hright.flip⟩

theorem MethodAlike.viewAlike {m n : Method} (h : MethodAlike m n)
    (hm : ∀ f ∈ m.requestFields, f.name ≠ "") (hn : ∀ f ∈ n.requestFields, f.name ≠ "") :
    ViewAlike (MethodView.of m) (MethodView.of n) := by
  refine ⟨?_, ?_⟩
  · rw [MethodView.of, MethodView.of, params, params, List.length_append, List.length_append,
      length_fieldParams h.requestFields]
  · rw [MethodView.of, MethodView.of, List.forall₂_map_left_iff, List.forall₂_map_right_iff]
    exact (forall₂_and_mem h.requestFields hm hn).imp
      fun _ _ hfield => hfield.2.2.omitCondition_iff hfield.1 hfield.2.1

theorem forall₂_viewAlike_claimNames {views views' : List MethodView}
    (h : List.Forall₂ ViewAlike views views') :
    List.Forall₂ ViewAlike (claimNames views) (claimNames views') := by
  -- How many lines there are does not depend on the two names.
  have hunnamed : ∀ {vs ws : List MethodView}, List.Forall₂ ViewAlike (vs.map MethodView.unnamed)
      (ws.map MethodView.unnamed) ↔ List.Forall₂ ViewAlike vs ws := by
    intro vs ws
    rw [List.forall₂_map_left_iff, List.forall₂_map_right_iff]
    exact ⟨fun h => h.imp fun _ _ h => ⟨h.params, h.fields⟩,
      fun h => h.imp fun _ _ h => ⟨h.params, h.fields⟩⟩
  rw [← hunnamed, map_unnamed_claimNames, map_unnamed_claimNames]
  exact hunnamed.mpr h

theorem messageAlike_addMessage {ms ns : List MessageView} (h : List.Forall₂ MessageAlike ms ns)
    {m n : MessageView} (hmn : MessageAlike m n) :
    List.Forall₂ MessageAlike (addMessage ms m) (addMessage ns n) := by
  have hany : ms.any (·.name == m.name) = ns.any (·.name == n.name) := by
    rw [hmn.name]
    induction h with
    | nil => rfl
    | cons hfirst _ ih => rw [List.any_cons, List.any_cons, ih, hfirst.name]
  rw [addMessage, addMessage, hany]
  split
  · exact h
  · exact List.rel_append h (.cons hmn .nil)

theorem messageAlike_messages_of {file file' : File} (h : SameShape file file') (p p' : Profile) :
    List.Forall₂ MessageAlike (ClientView.of file p).messages
      (ClientView.of file' p').messages := by
  rw [messages_of, messages_of]
  refine List.rel_foldl (P := List.Forall₂ MessageAlike) (R := MessageAlike)
    (fun _ _ hms _ _ hmn => messageAlike_addMessage hms hmn) .nil ?_
  refine List.rel_flatMap (List.rel_flatMap h fun _ _ hmethods => hmethods) fun m n hmn => ?_
  rw [methodMessages, methodMessages, hmn.inputType, hmn.outputType]
  refine .cons ⟨rfl, ?_⟩ (.cons ⟨rfl, ?_⟩ .nil)
  · rw [MessageView.of, MessageView.of, List.length_map, List.length_map,
      hmn.requestFields.length_eq]
  · rw [MessageView.of, MessageView.of, List.length_map, List.length_map,
      hmn.responseFields.length_eq]

theorem sameRows_lines_of {file file' : File} (h : SameShape file file') (hfile : FieldsNamed file)
    (hfile' : FieldsNamed file') {p p' : Profile} (hurl : writesUrl p = writesUrl p') :
    SameRows (ClientView.of file p).lines (ClientView.of file' p').lines := by
  have hservices : List.Forall₂ (fun s t => List.Forall₂ ViewAlike s.methods t.methods)
      (ClientView.of file p).services (ClientView.of file' p').services := by
    rw [ClientView.of, ClientView.of, List.forall₂_map_left_iff, List.forall₂_map_right_iff]
    refine (forall₂_and_mem h hfile hfile').imp fun s t hservice => ?_
    obtain ⟨hs, ht, hmethods⟩ := hservice
    refine forall₂_viewAlike_claimNames ?_
    rw [List.forall₂_map_left_iff, List.forall₂_map_right_iff]
    exact (forall₂_and_mem hmethods hs ht).imp
      fun _ _ hmethod => hmethod.2.2.viewAlike hmethod.1 hmethod.2.1
  have hmessages := messageAlike_messages_of h p p'
  rw [ClientView.lines, ClientView.lines]
  refine .append (.append (sameRows_headLines _ _) ?_) ?_
  · exact List.rel_flatMap hmessages fun _ _ => sameRows_messageLines
  · exact List.rel_flatMap hservices fun _ _ => sameRows_serviceLines hurl

/-! ## Texts of units -/

/-- How many line feeds a text has. -/
def lineFeeds (s : String) : Nat := occurs '\n' s

theorem count_endedLines (texts : List String) :
    (endedLines texts).count '\n' = texts.length + occursIn '\n' texts := by
  induction texts with
  | nil => rfl
  | cons text more ih =>
    rw [endedLines, List.flatMap_cons, List.count_append, ← endedLines, ih, List.count_append,
      occursIn_cons, occurs, List.length_cons]
    simp
    omega

/-- The lines that are not written are empty. -/
theorem occursIn_written (c : Char) (lines : List String) :
    occursIn c (written lines) = occursIn c lines := by
  have hempty : occursIn c (lines.rtakeWhile (· == "")) = 0 := by
    rw [occursIn_eq_zero_iff]
    intro line hline
    have hnone := List.mem_rtakeWhile_imp (p := (· == "")) hline
    rw [beq_iff_eq.mp hnone]
    rfl
  have hsplit := List.rdropWhile_append_rtakeWhile (p := (· == "")) (l := lines)
  rw [← hsplit, occursIn_append, hempty, hsplit, Nat.add_zero, written]

/-- What the lines of a unit's text are. -/
structure UnitText (file : File) (p : Profile) : Prop where
  /-- There is a line feed for each line, and there are those in the names that are written as they
  stand. -/
  feeds : lineFeeds (clientUnit file p).content =
    (written (ClientView.of file p).lines).length + occursIn '\n' (rawTexts file)
  /-- The text falls into the lines exactly if none of these names has a line break. -/
  kept : Text.lines (clientUnit file p).content = written (ClientView.of file p).lines ↔
    ∀ text ∈ rawTexts file, OneLine text

theorem unitText (file : File) (p : Profile) : UnitText file p := by
  have hchars : (clientUnit file p).content.toList =
      endedLines (written (ClientView.of file p).lines) :=
    toList_textOfLines (endsInText_lines_of file p)
  have hbreaks : ∀ c, lineBreakRanges.has c = true →
      occursIn c (written (ClientView.of file p).lines) = occursIn c (rawTexts file) :=
    fun c hc => by rw [occursIn_written, occursIn_lines_of hc]
  constructor
  · rw [lineFeeds, occurs, hchars, count_endedLines, hbreaks '\n' (by decide)]
  · have hcontent : (clientUnit file p).content =
        String.ofList (endedLines (written (ClientView.of file p).lines)) := by
      rw [← hchars, String.ofList_toList]
    rw [hcontent, lines_ended_iff, forall_oneLine_iff_occursIn, forall_oneLine_iff_occursIn]
    exact forall₂_congr fun c hc => by rw [hbreaks c hc]

/-! ## Two files of one shape -/

theorem fieldsNamed_of_readSchema {T α : Type} [DecidableEq T] [DocumentText T] [Document T α]
    {d : α} {files : List File} (h : readSchema d = .ok (files.map File.embed)) {file : File}
    (hfile : file ∈ files) : FieldsNamed file := by
  intro s hs m hm f hf
  have hmem : m ∈ methodsOf files :=
    List.mem_flatMap.mpr ⟨s, List.mem_flatMap.mpr ⟨file, hfile, hs⟩, hm⟩
  have hmethods := (readSchema_ok_iff.mp h).forall₂_methodParts
  rw [methodsOf_map_embed] at hmethods
  obtain ⟨part, -, hmethod⟩ :=
    exists_of_mem_of_forall₂ hmethods (List.mem_map_of_mem hmem)
  obtain ⟨part, -, hfield⟩ :=
    exists_of_mem_of_forall₂ hmethod.requestFields.forall₂ (List.mem_map_of_mem hf)
  exact fun hempty => hfield.name.ne_empty (DocumentText.ofString_inj.mpr hempty)

/-- What the lines of two units are, compared with each other. -/
structure LinesCompared (file file' : File) (p p' : Profile) : Prop where
  first : UnitText file p
  second : UnitText file' p'
  /-- Both are written as equally many lines. -/
  written : (written (ClientView.of file p).lines).length =
    (written (ClientView.of file' p').lines).length
  /-- Their texts have the same number of line feeds exactly if the names that are written as they
  stand have. -/
  feeds : lineFeeds (clientUnit file p).content = lineFeeds (clientUnit file' p').content ↔
    occursIn '\n' (rawTexts file) = occursIn '\n' (rawTexts file')
  /-- Where these names have no line breaks, the texts fall into equally many lines. -/
  plain : (∀ text ∈ rawTexts file, OneLine text) → (∀ text ∈ rawTexts file', OneLine text) →
    (Text.lines (clientUnit file p).content).length =
      (Text.lines (clientUnit file' p').content).length

theorem linesCompared {file file' : File} (h : SameShape file file') (hfile : FieldsNamed file)
    (hfile' : FieldsNamed file') {p p' : Profile} (hurl : writesUrl p = writesUrl p') :
    LinesCompared file file' p p' := by
  have hfirst := unitText file p
  have hsecond := unitText file' p'
  have hlength := (sameRows_lines_of h hfile hfile' hurl).length_written
  refine ⟨hfirst, hsecond, hlength, ?_, fun hplain hplain' => ?_⟩
  · rw [hfirst.feeds, hsecond.feeds]
    omega
  · rw [hfirst.kept.mpr hplain, hsecond.kept.mpr hplain', hlength]

/-- **Lines of units.** Let two accepted documents have files that differ in names other than those
of message types only, and let two profiles agree in whether a base URL is written. Then both units
are written as equally many lines; the text of a unit falls into these lines exactly if no name that
is written as it stands holds a line break; and the texts have the same number of line feeds exactly
if these names have. -/
theorem unit_lines_iff {T U α β : Type} [DecidableEq T] [DocumentText T] [DecidableEq U]
    [DocumentText U] [Document T α] [Document U β] {d : α} {d' : β} {files files' : List File}
    (h : readSchema d = .ok (files.map File.embed))
    (h' : readSchema d' = .ok (files'.map File.embed))
    {file file' : File} (hfile : file ∈ files) (hfile' : file' ∈ files')
    (hshape : SameShape file file') {p p' : Profile} (hurl : writesUrl p = writesUrl p') :
    LinesCompared file file' p p' :=
  linesCompared hshape (fieldsNamed_of_readSchema h hfile)
    (fieldsNamed_of_readSchema h' hfile') hurl

/-! ## Documents of one shape -/

/-- A document of one method with one field in its request. -/
def greeterDocument (package service method field : String) : DocumentTree String :=
  .object [("files", .list [.object [("name", .text "greeter.proto"), ("package", .text package),
    ("services", .list [.object [
      ("name", .text service), ("methods", .list [.object [
        ("name", .text method), ("input_type", .text "Request"), ("output_type", .text "Reply"),
        ("request_fields", .list [.object [
          ("name", .text field), ("kind", .text "string")]])]])]])]])]

/-- The file of such a document. -/
def greeterFile (package service method field : String) : File :=
  ⟨"greeter.proto", package, [⟨service, [⟨method, "Request", "Reply", false, false,
    [⟨field, jsonName field, "string", false, false⟩], []⟩]⟩]⟩

theorem sameShape_greeterFile
    (package service method field package' service' method' field' : String) :
    SameShape (greeterFile package service method field)
      (greeterFile package' service' method' field') :=
  .cons (.cons ⟨rfl, rfl, rfl, rfl, .cons ⟨rfl, rfl, rfl⟩ .nil, .nil⟩ .nil) .nil

/-- Names of other lengths and characters, and as many lines. -/
theorem unit_lines_iff_greeter :
    let file := greeterFile "demo" "Greeter" "SayHello" "name"
    let file' := greeterFile "" "g" "class" "user_id"
    readSchema (greeterDocument "demo" "Greeter" "SayHello" "name") = .ok [file] ∧
      readSchema (greeterDocument "" "g" "class" "user_id") = .ok [file'] ∧
      LinesCompared file file' defaultProfile defaultProfile ∧
      (Text.lines (clientUnit file defaultProfile).content).length =
        (Text.lines (clientUnit file' defaultProfile).content).length := by
  intro file file'
  have h : readSchema (greeterDocument "demo" "Greeter" "SayHello" "name") = .ok [file] := by
    decide +kernel
  have h' : readSchema (greeterDocument "" "g" "class" "user_id") = .ok [file'] := by
    decide +kernel
  have hcompared := unit_lines_iff h h' (List.mem_singleton_self _) (List.mem_singleton_self _)
    (sameShape_greeterFile ..) (rfl : writesUrl defaultProfile = writesUrl defaultProfile)
  exact ⟨h, h', hcompared, hcompared.plain (by decide +kernel) (by decide +kernel)⟩

/-- A package with a line feed in it, which a document may have, and a line more. -/
theorem package_breaks_line :
    let file := greeterFile "demo" "Greeter" "SayHello" "name"
    let file' := greeterFile "demo\nv1" "Greeter" "SayHello" "name"
    readSchema (greeterDocument "demo" "Greeter" "SayHello" "name") = .ok [file] ∧
      readSchema (greeterDocument "demo\nv1" "Greeter" "SayHello" "name") = .ok [file'] ∧
      SameShape file file' ∧
      lineFeeds (clientUnit file' defaultProfile).content =
        lineFeeds (clientUnit file defaultProfile).content + 1 := by
  intro file file'
  have h : readSchema (greeterDocument "demo" "Greeter" "SayHello" "name") = .ok [file] := by
    decide +kernel
  have h' : readSchema (greeterDocument "demo\nv1" "Greeter" "SayHello" "name") = .ok [file'] := by
    decide +kernel
  have hshape : SameShape file file' := sameShape_greeterFile ..
  refine ⟨h, h', hshape, ?_⟩
  have hcompared := linesCompared hshape (fieldsNamed_of_readSchema h (List.mem_singleton_self _))
    (fieldsNamed_of_readSchema h' (List.mem_singleton_self _))
    (rfl : writesUrl defaultProfile = writesUrl defaultProfile)
  have hnames : occursIn '\n' (rawTexts file') = occursIn '\n' (rawTexts file) + 1 := by
    decide +kernel
  rw [hcompared.first.feeds, hcompared.second.feeds, hcompared.written, hnames, Nat.add_assoc]

end ConnectRpc.Stub
