import ConnectRpc.Proofs.Stub.Members
import ConnectRpc.Proofs.Stub.Shapes
import ConnectRpc.Proofs.Stub.TypeNames
import ConnectRpc.Proofs.Text.LineBreaks
import ConnectRpc.Stub.ClientUnit

/-!
# Names that are written as they stand

The lines of a unit hold the names of the schema in three forms. Quoted texts, type names and the
runtime's module are free of line breaks. Names of classes and parameters and the like are not: the
capital form, the snake case and underscores at the end leave a line break where it is
(`occurs_identifier`). And the remarks hold names as they stand.
-/

namespace ConnectRpc.Stub

open Schema Text

/-! ## Names on one line -/

theorem oneLine_of_isWordChar {s : String} (h : ∀ c ∈ s.toList, isWordChar c = true) :
    OneLine s := fun c hc =>
  Ranges.not_has_of_apart (by decide +kernel) (h c hc)

theorem oneLine_typeName (name : String) : OneLine (typeName name) :=
  oneLine_of_isWordChar isWordChar_of_mem_typeName

theorem oneLine_of_isIdentifier {s : String} (h : isIdentifier s = true) : OneLine s := fun c hc =>
  Ranges.not_has_of_apart (by decide +kernel) (isIdentifierContinue_of_mem h c hc)

theorem oneLine_runtimeImport (fileName : String) (p : Profile) :
    OneLine (runtimeImport fileName p) := by
  rw [OneLine, runtimeImport, String.toList_append, String.toList_ofList, List.forall_mem_append]
  refine ⟨fun c hc => ?_, oneLine_of_isIdentifier p.runtimeModule_isIdentifier⟩
  rw [(List.mem_replicate.mp hc).2]
  rfl

theorem oneLine_hint (category : Category) : OneLine category.hint := by
  cases category <;> decide

theorem oneLine_default (category : Category) : OneLine category.default := by
  cases category <;> decide

theorem oneLine_view (m : Method) : OneLine (MethodView.of m).inputType ∧
    OneLine (MethodView.of m).comment ∧ OneLine (MethodView.of m).entryPoint := by
  have htravel : ∀ travel : Travel, OneLine travel.comment ∧ OneLine travel.entryPoint := by
    intro travel
    cases travel <;> decide
  simp only [MethodView.of]
  exact ⟨oneLine_typeName m.inputType, htravel (Travel.of m)⟩

/-! ## Names as they stand

One entry for each place of a unit's text where a name of the schema is written with its line breaks
in it.
-/

/-- The name of a parameter stands in its declaration, in the value that is sent and, if it has a
default, in the condition under which it is sent. -/
def fieldTexts (f : Field) : List String := List.replicate (if hasDefault f then 3 else 2) f.name

/-- The name of a method stands in the name of its signal, where that is made and where it is passed
on, in the name of its stub, and in the remark above it. -/
def methodTexts (m : Method) : List String :=
  List.replicate 4 m.name ++ m.requestFields.flatMap fieldTexts

/-- The name of a service stands in the name of its class, which is written in the head of the unit
and in that of the class; its path stands in the documentation of the class. -/
def serviceTexts (package : String) (s : Service) : List String :=
  [s.name, s.name, s.path package] ++ s.methods.flatMap methodTexts

/-- What follows the last slash of a schema file's name. -/
def baseName (fileName : String) : String :=
  String.ofList ((fileName.toList.reverse.takeWhile (· != '/')).reverse)

/-- The texts of a schema file that its unit holds as they stand. -/
def rawTexts (file : File) : List String :=
  baseName file.name :: file.services.flatMap (serviceTexts file.package)

/-! ## Line breaks that are kept -/

/-- The letters of ASCII. -/
def letterRanges : Ranges := [(0x41, 0x5A), (0x61, 0x7A)]

theorem letterRanges_has_of_isCapital {d : Char} (h : isCapital d = true) :
    letterRanges.has d = true ∧ letterRanges.has (small d) = true := by
  have hrange := toNat_of_isCapital h
  have hsmall := toNat_small_of_isCapital h
  simp only [Ranges.has_iff, letterRanges, List.mem_cons, List.not_mem_nil, or_false]
  exact ⟨⟨_, .inl rfl, hrange⟩, ⟨_, .inr rfl, by omega, by omega⟩⟩

/-- The code points of the characters that break lines. -/
def breakCodes : List Nat := [10, 11, 12, 13, 28, 29, 30, 133, 8232, 8233]

theorem toNat_mem_breakCodes {c : Char} (h : lineBreakRanges.has c = true) :
    c.toNat ∈ breakCodes := by
  simp only [Ranges.has_iff, lineBreakRanges, List.mem_cons, List.not_mem_nil] at h
  simp only [breakCodes, List.mem_cons, List.not_mem_nil]
  grind

section

variable {c : Char} (hc : lineBreakRanges.has c = true)

include hc

theorem ne_of_not_break {d : Char} (h : lineBreakRanges.has d = false) : d ≠ c := by
  rintro rfl
  rw [hc] at h
  cases h

theorem occurs_of_oneLine {s : String} (h : OneLine s) : occurs c s = 0 :=
  oneLine_iff_occurs.mp h c hc

theorem occurs_quote (s : String) : occurs c (quote s) = 0 :=
  occurs_of_oneLine hc (oneLine_quote s)

/-- A capital and what becomes of it are no line break. -/
theorem ne_of_isCapital {d : Char} (h : isCapital d = true) : d ≠ c ∧ small d ≠ c := by
  have hletters : lineBreakRanges.apart letterRanges = true := by decide
  obtain ⟨hd, hsmall⟩ := letterRanges_has_of_isCapital h
  exact ⟨ne_of_not_break hc (Ranges.not_has_of_apart hletters hd),
    ne_of_not_break hc (Ranges.not_has_of_apart hletters hsmall)⟩

theorem count_snakeTail (cs : List Char) : (snakeTail cs).count c = cs.count c := by
  induction cs with
  | nil => rfl
  | cons d rest ih =>
    rw [snakeTail, List.flatMap_cons, List.count_append, ← snakeTail, ih]
    split
    · next hcapital =>
      have hunderscore : '_' ≠ c := ne_of_not_break hc (by decide)
      obtain ⟨hd, hsmall⟩ := ne_of_isCapital hc hcapital
      simp [hunderscore, hd, hsmall]
    · exact List.count_append.symm

theorem occurs_snakeCase (name : String) : occurs c (snakeCase name) = occurs c name := by
  rw [occurs, occurs, snakeCase, String.toList_ofList]
  cases name.toList with
  | nil => rfl
  | cons d rest =>
    rw [snakeChars_cons, List.count_cons, List.count_cons, count_snakeTail hc, small]
    split
    · next hcapital =>
      obtain ⟨hd, hsmall⟩ := ne_of_isCapital hc hcapital
      rw [small, if_pos hcapital] at hsmall
      simp [hd, hsmall]
    · rfl

theorem occurs_underscored (name : String) (n : Nat) :
    occurs c (underscored name n) = occurs c name := by
  have hunderscore : '_' ≠ c := ne_of_not_break hc (by decide)
  rw [occurs, toList_underscored, List.count_append, List.count_replicate]
  simp [hunderscore, occurs]

theorem occurs_identifier (name : String) : occurs c (identifier name) = occurs c name := by
  unfold identifier
  dsimp only
  split
  · rw [← underscored_one, occurs_underscored hc, occurs_snakeCase hc]
  · exact occurs_snakeCase hc name

/-- No letter has a line break in its capital form, and a line break is its own. -/
theorem count_capital (d : Char) : (capital d).count c = [d].count c := by
  have hlong : ∀ entry ∈ longCapitals, entry.1 ∉ breakCodes ∧
      ∀ code ∈ entry.2, lineBreakRanges.has (Char.ofNat code) = false := by decide +kernel
  have hruns : ∀ run ∈ capitalRuns, ∀ code ∈ breakCodes,
      run.covers code = false ∧ run.covers (code - run.shift).toNat = false := by decide +kernel
  have hcode := toNat_mem_breakCodes hc
  rcases capital_cases d with ⟨entry, hentry, hletter, hcapital⟩ | ⟨run, hrun, hcovers, hcapital⟩ |
    hcapital
  · have hd : d ≠ c := by
      rintro rfl
      exact (hlong entry hentry).1 (hletter ▸ hcode)
    have hcodes : c ∉ entry.2.map Char.ofNat := fun hmem => by
      obtain ⟨code, hmem, heq⟩ := List.mem_map.mp hmem
      exact ne_of_not_break hc ((hlong entry hentry).2 code hmem) heq
    rw [hcapital, List.count_eq_zero.mpr hcodes, List.count_eq_zero.mpr (by simpa using hd.symm)]
  · have hd : d ≠ c := by
      rintro rfl
      rw [(hruns run hrun _ hcode).1] at hcovers
      cases hcovers
    have hshifted : Char.ofNat (Int.toNat (d.toNat + run.shift)) ≠ c := fun heq => by
      have hnonzero : c.toNat ≠ 0 := fun hzero => by
        rw [hzero] at hcode
        exact absurd hcode (by decide)
      have hshift := toNat_eq_of_ofNat_eq heq hnonzero
      have hback : (c.toNat - run.shift).toNat = d.toNat := by omega
      have hnot := (hruns run hrun _ hcode).2
      rw [hback, hcovers] at hnot
      cases hnot
    rw [hcapital, List.count_eq_zero.mpr (by simpa using hshifted.symm),
      List.count_eq_zero.mpr (by simpa using hd.symm)]
  · rw [hcapital]

theorem occurs_className (service : String) : occurs c (className service) = occurs c service := by
  have hcapital : occurs c (capitalise service) = occurs c service := by
    rw [occurs, occurs, capitalise, String.toList_ofList]
    cases service.toList with
    | nil => rfl
    | cons d rest =>
      rw [capitaliseChars, List.count_append, count_capital hc, ← List.count_append]
      rfl
  have hending : OneLine "Client" := by decide
  rw [className, occurs_append, hcapital, occurs_of_oneLine hc hending, Nat.add_zero]

/-! ## Lines -/

theorem occurs_paramDeclaration (f : Field) : occurs c (paramDeclaration f) = occurs c f.name := by
  have hhint := occurs_of_oneLine hc (oneLine_hint (categoryOf f))
  have hdefault := occurs_of_oneLine hc (oneLine_default (categoryOf f))
  unfold paramDeclaration
  dsimp only
  repeat' split
  all_goals
    simp (disch := decide) only [occurs_append, occurs_of_oneLine hc, occurs_identifier hc,
      hhint, hdefault, Nat.add_zero]

theorem occursIn_fieldParams (starred : Bool) (fields : List Field) :
    occursIn c (fieldParams starred fields) = (fields.map fun f => occurs c f.name).sum := by
  have hstar : occurs c "*" = 0 := occurs_of_oneLine hc (by decide)
  induction fields generalizing starred with
  | nil =>
    unfold fieldParams
    split <;> simp [occursIn, hstar]
  | cons f rest ih =>
    unfold fieldParams
    split
    · rw [occursIn_cons, occursIn_cons, hstar, occurs_paramDeclaration hc, ih, List.map_cons,
        List.sum_cons, Nat.zero_add]
    · rw [occursIn_cons, occurs_paramDeclaration hc, ih, List.map_cons, List.sum_cons]

theorem occursIn_fieldLines (f : FieldView) :
    occursIn c f.lines = occurs c f.omitCondition + occurs c f.value := by
  unfold FieldView.lines
  dsimp only
  split
  · next hempty =>
    rw [hempty]
    simp (disch := decide) only [occursIn_cons, occursIn_nil, occurs_append,
      occurs_quote hc, occurs_of_oneLine hc, Nat.add_zero, Nat.zero_add]
  · simp (disch := decide) only [occursIn_cons, occursIn_nil, occurs_append,
      occurs_quote hc, occurs_of_oneLine hc, Nat.add_zero, Nat.zero_add]

theorem occursIn_fieldLines_of (f : Field) :
    occursIn c (FieldView.of f).lines = (if hasDefault f then 2 else 1) * occurs c f.name := by
  rw [occursIn_fieldLines hc]
  unfold FieldView.of hasDefault
  dsimp only
  split
  · next hrepeated =>
    simp (disch := decide) only [occurs_append, occurs_of_oneLine hc, occurs_identifier hc,
      hrepeated, Bool.or_true, if_true, Nat.add_zero, Nat.zero_add, Nat.two_mul]
  split
  · next hrepeated hoptional =>
    have hempty : occurs c "" = 0 := rfl
    rw [Bool.not_eq_true'] at hoptional
    simp only [hempty, hrepeated, hoptional, occurs_identifier hc]
    simp
  · next hrepeated hoptional =>
    have hflag : f.isOptional = true := by simpa using hoptional
    rw [hflag, Bool.true_or, if_pos rfl, Nat.two_mul]
    generalize categoryOf f = category
    cases category
    all_goals
      simp (disch := decide) only [occurs_append, occurs_of_oneLine hc,
        occurs_identifier hc, Nat.add_zero]

theorem occursIn_methodLines (path : String) {m : MethodView} (hinput : OneLine m.inputType)
    (hcomment : OneLine m.comment) (hentry : OneLine m.entryPoint) :
    occursIn c (m.lines path) = occurs c m.name + occurs c m.stubName + occursIn c m.params +
      (m.fields.map fun f => occursIn c f.lines).sum + occurs c m.signalName := by
  have hinput := occurs_of_oneLine hc hinput
  have hcomment := occurs_of_oneLine hc hcomment
  have hentry := occurs_of_oneLine hc hentry
  have hparams : occursIn c m.params = (m.params.map (occurs c)).sum := rfl
  simp (disch := decide) only [MethodView.lines, occursIn_append, occursIn_cons,
    occursIn_nil, occursIn_map, occursIn_flatMap, occurs_append, occurs_quote hc,
    occurs_of_oneLine hc, hinput, hcomment, hentry, hparams, Nat.add_zero, Nat.zero_add]

/-- Underscores that keep members apart from others bring no line breaks. -/
theorem Renamed.occursIn_eq (path : String) {v w : MethodView} (h : Renamed v w)
    (hinput : OneLine v.inputType) (hcomment : OneLine v.comment) (hentry : OneLine v.entryPoint) :
    occursIn c (w.lines path) + occurs c w.signalName =
      occursIn c (v.lines path) + occurs c v.signalName := by
  obtain ⟨signals, stubs, hw⟩ := h
  have hinput' : OneLine w.inputType := by rwa [hw]
  have hcomment' : OneLine w.comment := by rwa [hw]
  have hentry' : OneLine w.entryPoint := by rwa [hw]
  rw [occursIn_methodLines hc path hinput hcomment hentry,
    occursIn_methodLines hc path hinput' hcomment' hentry', hw, occurs_underscored hc,
    occurs_underscored hc]

/-- A method's texts are in its lines and in the line of its signal. -/
theorem occursIn_methodLines_of (path : String) (m : Method) :
    occursIn c ((MethodView.of m).lines path) + occurs c (MethodView.of m).signalName =
      occursIn c (methodTexts m) := by
  have hsignal : occurs c (MethodView.of m).signalName = occurs c m.name := by
    have hsuffix : ∀ travel : Travel, OneLine travel.signalSuffix := by
      intro travel
      cases travel <;> decide
    rw [MethodView.of, occurs_append, occurs_snakeCase hc, occurs_of_oneLine hc (hsuffix _),
      Nat.add_zero]
  have hstub : occurs c (MethodView.of m).stubName = occurs c m.name := by
    rw [MethodView.of, occurs_identifier hc]
  have hname : occurs c (MethodView.of m).name = occurs c m.name := by
    rw [MethodView.of]
  have hparams : occursIn c (MethodView.of m).params =
      (m.requestFields.map fun f => occurs c f.name).sum := by
    have hcall : occursIn c callParams = 0 := by
      simp (disch := decide) only [callParams, occursIn_cons, occursIn_nil, occurs_of_oneLine hc]
    rw [MethodView.of, params, occursIn_append, occursIn_fieldParams hc, hcall, Nat.add_zero]
  have hfields : ((MethodView.of m).fields.map fun f => occursIn c f.lines).sum =
      (m.requestFields.map fun f => (if hasDefault f then 2 else 1) * occurs c f.name).sum := by
    rw [MethodView.of, List.map_map]
    exact congrArg List.sum (List.map_congr_left fun f _ => occursIn_fieldLines_of hc f)
  have htexts : occursIn c (m.requestFields.flatMap fieldTexts) =
      (m.requestFields.map fun f => occurs c f.name).sum +
        (m.requestFields.map fun f => (if hasDefault f then 2 else 1) * occurs c f.name).sum := by
    rw [occursIn_flatMap, ← List.sum_map_add]
    refine congrArg List.sum (List.map_congr_left fun f _ => ?_)
    rw [fieldTexts, occursIn_replicate]
    split <;> omega
  obtain ⟨hinput, hcomment, hentry⟩ := oneLine_view m
  rw [occursIn_methodLines hc path hinput hcomment hentry, hname, hsignal, hstub, hparams, hfields,
    methodTexts, occursIn_append, occursIn_replicate, htexts]
  omega

/-- The texts of methods are in the lines of their stubs and of their signals. -/
theorem sum_occursIn_claimNames (path : String) (methods : List Method) :
    ((claimNames (methods.map MethodView.of)).map fun w =>
      occursIn c (w.lines path) + occurs c w.signalName).sum =
        occursIn c (methods.flatMap methodTexts) := by
  have hrenamed := forall₂_renamed_claimNames (methods.map MethodView.of)
  rw [List.forall₂_map_left_iff] at hrenamed
  rw [occursIn_flatMap]
  generalize claimNames (methods.map MethodView.of) = views at hrenamed ⊢
  induction hrenamed with
  | nil => rfl
  | @cons m w _ _ hfirst _ ih =>
    obtain ⟨hinput, hcomment, hentry⟩ := oneLine_view m
    rw [List.map_cons, List.map_cons, List.sum_cons, List.sum_cons, ih,
      hfirst.occursIn_eq hc path hinput hcomment hentry, occursIn_methodLines_of hc]

theorem occursIn_baseUrlLines (baseUrl : Option String) :
    occursIn c (baseUrlLines baseUrl) = 0 := by
  unfold baseUrlLines
  split
  · rfl
  · split
    · rfl
    · simp (disch := decide) only [occursIn_cons, occursIn_nil, occurs_append,
        occurs_quote hc, occurs_of_oneLine hc]

/-- A service's texts are in the lines of its class and in the head of the unit. -/
theorem occursIn_serviceLines_of (baseUrl : Option String) (package : String) (s : Service) :
    occursIn c ((ServiceView.of package s).lines baseUrl) + occurs c (className s.name) =
      occursIn c (serviceTexts package s) := by
  have hsum := sum_occursIn_claimNames hc (s.path package) s.methods
  rw [List.sum_map_add, occursIn_flatMap] at hsum
  simp (disch := decide) only [ServiceView.lines, ServiceView.of, occursIn_append,
    occursIn_cons, occursIn_nil, occursIn_map, occursIn_flatMap, occurs_append,
    occurs_of_oneLine hc, occursIn_baseUrlLines hc, occurs_className hc, serviceTexts,
    Nat.add_zero, Nat.zero_add]
  omega

theorem occurs_joinText {sep : String} (hsep : OneLine sep) (texts : List String) :
    occurs c (joinText sep texts) = occursIn c texts := by
  induction texts with
  | nil => rfl
  | cons text more ih =>
    cases more with
    | nil => rfl
    | cons second more =>
      rw [joinText_cons (by simp), occursIn_cons, ← ih, occurs_append, occurs_append,
        occurs_of_oneLine hc hsep, Nat.add_zero]

theorem occursIn_headLines {v : ClientView} (h : OneLine v.runtimeImport) :
    occursIn c (headLines v) = occurs c v.fileName + occursIn c (v.services.map (·.className)) := by
  have himport := occurs_of_oneLine hc h
  simp (disch := decide) only [headLines, occursIn_cons, occursIn_nil, occurs_append,
    occurs_of_oneLine hc, occurs_joinText hc, himport]
  omega

theorem occursIn_messageLines {name : String} (hname : OneLine name) (fields : List Field) :
    occursIn c (MessageView.of name fields).lines = 0 := by
  have hname := occurs_of_oneLine hc hname
  have hhint : ∀ f : Field, occurs c (fieldHint f) = 0 := by
    intro f
    have hhint := occurs_of_oneLine hc (oneLine_hint (categoryOf f))
    unfold fieldHint
    split
    · simp (disch := decide) only [occurs_append, occurs_of_oneLine hc, hhint]
    · exact hhint
  have hfields : occursIn c (fields.map fun f =>
      "        " ++ quote f.jsonName ++ ": " ++ fieldHint f ++ ",") = 0 := by
    rw [occursIn_eq_zero_iff, List.forall_mem_map]
    intro f _
    simp (disch := decide) only [occurs_append, occurs_quote hc, occurs_of_oneLine hc, hhint]
  rw [MessageView.lines, MessageView.of, occursIn_append, occursIn_append, List.map_map]
  change _ + occursIn c (fields.map fun f =>
      "        " ++ quote f.jsonName ++ ": " ++ fieldHint f ++ ",") + _ = 0
  rw [hfields]
  simp (disch := decide) only [occursIn_cons, occursIn_nil, occurs_append, occurs_quote hc,
    occurs_of_oneLine hc, hname]

/-- **Line breaks of a unit.** The lines of a unit hold the line breaks of the texts that are
written as they stand, and no others. -/
theorem occursIn_lines_of (file : File) (p : Profile) :
    occursIn c (ClientView.of file p).lines = occursIn c (rawTexts file) := by
  have hmessages : occursIn c ((ClientView.of file p).messages.flatMap MessageView.lines) = 0 := by
    rw [occursIn_eq_zero_iff, List.forall_mem_flatMap, messages_of]
    intro m hm
    rw [← occursIn_eq_zero_iff]
    have hmem := (mem_of_mem_foldl_addMessage hm).resolve_left List.not_mem_nil
    obtain ⟨method, -, hmethod⟩ := List.mem_flatMap.mp hmem
    simp only [methodMessages, List.mem_cons, List.not_mem_nil, or_false] at hmethod
    rcases hmethod with rfl | rfl
    · exact occursIn_messageLines hc (oneLine_typeName _) _
    · exact occursIn_messageLines hc (oneLine_typeName _) _
  have hservices : occursIn c ((ClientView.of file p).services.flatMap
      (ServiceView.lines (ClientView.of file p).baseUrl)) +
      occursIn c ((ClientView.of file p).services.map (·.className)) =
        occursIn c (file.services.flatMap (serviceTexts file.package)) := by
    rw [occursIn_flatMap, occursIn_map, ← List.sum_map_add, occursIn_flatMap]
    simp only [ClientView.of, List.map_map]
    exact congrArg List.sum (List.map_congr_left fun s _ =>
      occursIn_serviceLines_of hc p.baseUrl file.package s)
  have hhead : occursIn c (headLines (ClientView.of file p)) = occurs c (baseName file.name) +
      occursIn c ((ClientView.of file p).services.map (·.className)) :=
    occursIn_headLines hc (oneLine_runtimeImport file.name p)
  rw [ClientView.lines, occursIn_append, occursIn_append, hmessages, hhead, rawTexts,
    occursIn_cons]
  omega

end

end ConnectRpc.Stub
