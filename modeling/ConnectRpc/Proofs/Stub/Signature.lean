import ConnectRpc.Proofs.Schema.Keys
import ConnectRpc.Proofs.Stub.Parameters

/-!
# Signatures and what the body makes of them

A stub declares its parameters in one place and puts them into the request in another, and the two
are generated apart from each other. This module reads both back: from a declaration the default
that it gives (`declaredDefault?`), and from a statement of the body the condition that it is under
(`condition?`). With these, a call can be followed from its arguments to the request that it fills
(`sentRequest`).

A parameter without a default may follow one with a default only behind the star, which stands
accordingly (`params_wellFormed`). A parameter with a default is not sent while it holds it, so a
key is left out of the request with its argument (`params_signature`). There are two limits to that,
and `left_out_keys_kept` has an example of each: the condition of some fields is their name, which
is no condition at all if the name is empty (`Conditionless`), and another field may have the same
key.
-/

namespace ConnectRpc.Stub

open Schema

/-! ## The star -/

theorem fieldParams_starred (fields : List Field) :
    fieldParams true fields = fields.map paramDeclaration := by
  induction fields with
  | nil => rfl
  | cons f rest ih =>
    rw [fieldParams, if_neg (by simp), ih, List.map_cons]

theorem fieldParams_required {before : List Field} (h : ∀ f ∈ before, hasDefault f = false)
    (rest : List Field) :
    fieldParams false (before ++ rest) = before.map paramDeclaration ++ fieldParams false rest := by
  induction before with
  | nil => rfl
  | cons f more ih =>
    obtain ⟨hf, hmore⟩ := List.forall_mem_cons.mp h
    rw [List.cons_append, fieldParams, if_neg (by simp [hf]), ih hmore, List.map_cons,
      List.cons_append]

theorem fieldParams_defaulted {fields : List Field} (h : ∀ f ∈ fields, hasDefault f = true) :
    fieldParams false fields = fields.map paramDeclaration ++ ["*"] := by
  induction fields with
  | nil => rfl
  | cons f rest ih =>
    obtain ⟨-, hrest⟩ := List.forall_mem_cons.mp h
    have hnone : rest.any (!hasDefault ·) = false := by simpa using hrest
    rw [fieldParams, if_neg (by simp [hnone]), ih hrest, List.map_cons, List.cons_append]

/-- Of a list of fields, `first` is the first with a default, and one without follows it. -/
structure MixedAt (before : List Field) (first : Field) (after : List Field) : Prop where
  required : ∀ f ∈ before, hasDefault f = false
  defaulted : hasDefault first = true
  mixed : ∃ f ∈ after, hasDefault f = false

theorem MixedAt.params {before after : List Field} {first : Field}
    (h : MixedAt before first after) :
    params (before ++ first :: after) = before.map paramDeclaration ++
      "*" :: (first :: after).map paramDeclaration ++ callParams := by
  have hmixed : after.any (!hasDefault ·) = true := by
    obtain ⟨f, hf, hrequired⟩ := h.mixed
    exact List.any_eq_true.mpr ⟨f, hf, by simp [hrequired]⟩
  rw [Stub.params, fieldParams_required h.required, fieldParams,
    if_pos (by simp [h.defaulted, hmixed]), fieldParams_starred, List.map_cons]

/-- Fields without a default come first, or else the fields are mixed. -/
theorem mixedAt_or_ordered (fields : List Field) :
    (∃ before first after, fields = before ++ first :: after ∧ MixedAt before first after) ∨
      ∃ before after, fields = before ++ after ∧ (∀ f ∈ before, hasDefault f = false) ∧
        ∀ f ∈ after, hasDefault f = true := by
  induction fields with
  | nil => exact .inr ⟨[], [], rfl, by simp, by simp⟩
  | cons f rest ih =>
    cases hf : hasDefault f with
    | true =>
      by_cases hmixed : ∃ g ∈ rest, hasDefault g = false
      · exact .inl ⟨[], f, rest, rfl, by simp, hf, hmixed⟩
      · refine .inr ⟨[], f :: rest, rfl, by simp, List.forall_mem_cons.mpr ⟨hf, fun g hg => ?_⟩⟩
        cases hg' : hasDefault g with
        | true => rfl
        | false => exact absurd ⟨g, hg, hg'⟩ hmixed
    | false =>
      rcases ih with ⟨before, first, after, rfl, h⟩ | ⟨before, after, rfl, hbefore, hafter⟩
      · exact .inl ⟨f :: before, first, after, rfl,
          List.forall_mem_cons.mpr ⟨hf, h.required⟩, h.defaulted, h.mixed⟩
      · exact .inr ⟨f :: before, after, rfl, List.forall_mem_cons.mpr ⟨hf, hbefore⟩, hafter⟩

theorem params_of_ordered {before after : List Field} (hbefore : ∀ f ∈ before, hasDefault f = false)
    (hafter : ∀ f ∈ after, hasDefault f = true) :
    params (before ++ after) = (before ++ after).map paramDeclaration ++ "*" :: callParams := by
  rw [params, fieldParams_required hbefore, fieldParams_defaulted hafter, List.map_append]
  simp only [List.append_assoc, List.singleton_append]

/-- The signature of the fields' stub is well formed. -/
structure WellFormed (fields : List Field) : Prop where
  one_star : (params fields).count "*" = 1
  /-- Apart from the star there are the declarations of the fields in their order, and those of the
  settings of the call. -/
  declarations : (params fields).filter (· ≠ "*") = fields.map paramDeclaration ++ callParams
  /-- Before the star no field without a default follows one with a default. -/
  legal : ∃ positional keyword, fields = positional ++ keyword ∧
    params fields =
      positional.map paramDeclaration ++ "*" :: keyword.map paramDeclaration ++ callParams ∧
    positional.Pairwise fun f g => hasDefault f = true → hasDefault g = true
  /-- In a list with a field without a default behind one with a default, the star stands right
  before the first with a default. -/
  mixed : ∀ before first after, fields = before ++ first :: after → MixedAt before first after →
    params fields =
      before.map paramDeclaration ++ "*" :: (first :: after).map paramDeclaration ++ callParams
  /-- In any other list it stands behind all fields. -/
  ordered : (∀ before first after, fields = before ++ first :: after →
      ¬ MixedAt before first after) →
    params fields = fields.map paramDeclaration ++ "*" :: callParams

theorem filter_params (fields : List Field) :
    (params fields).filter (· ≠ "*") = fields.map paramDeclaration ++ callParams := by
  rw [params, List.filter_append, filter_fieldParams]
  rfl

theorem star_not_mem_declarations (fields : List Field) : "*" ∉ fields.map paramDeclaration := by
  intro h
  obtain ⟨f, -, hf⟩ := List.mem_map.mp h
  exact (paramDeclaration_declares f).ne_star hf

theorem params_wellFormed (fields : List Field) : WellFormed fields := by
  have hlegal : ∃ positional keyword, fields = positional ++ keyword ∧
      params fields =
        positional.map paramDeclaration ++ "*" :: keyword.map paramDeclaration ++ callParams ∧
      positional.Pairwise fun f g => hasDefault f = true → hasDefault g = true := by
    rcases mixedAt_or_ordered fields with
      ⟨before, first, after, rfl, h⟩ | ⟨before, after, rfl, hbefore, hafter⟩
    · refine ⟨before, first :: after, rfl, h.params, ?_⟩
      refine List.pairwise_of_forall_mem_list fun f hf g _ hdefault => ?_
      rw [h.required f hf] at hdefault
      cases hdefault
    · refine ⟨before ++ after, [], (List.append_nil _).symm, ?_, ?_⟩
      · rw [params_of_ordered hbefore hafter]
        simp
      · refine List.pairwise_append.mpr ⟨?_, ?_, fun f hf g hg _ => hafter g hg⟩
        · refine List.pairwise_of_forall_mem_list fun f hf g _ hdefault => ?_
          rw [hbefore f hf] at hdefault
          cases hdefault
        · exact List.pairwise_of_forall_mem_list fun f _ g hg _ => hafter g hg
  refine ⟨?_, filter_params fields, hlegal, fun before first after heq h => heq ▸ h.params,
    fun h => ?_⟩
  · obtain ⟨positional, keyword, -, hparams, -⟩ := hlegal
    rw [hparams, List.count_append, List.count_append, List.count_cons,
      List.count_eq_zero.mpr (star_not_mem_declarations positional),
      List.count_eq_zero.mpr (star_not_mem_declarations keyword)]
    decide
  · rcases mixedAt_or_ordered fields with
      ⟨before, first, after, heq, hmixed⟩ | ⟨before, after, rfl, hbefore, hafter⟩
    · exact absurd hmixed (h before first after heq)
    · exact params_of_ordered hbefore hafter

/-! ## Reading declarations -/

/-- What a literal stands for. -/
def literal? (text : String) : Option Value :=
  if text = "\"\"" then some (.text "")
  else if text = "0" then some (.int 0)
  else if text = "0.0" then some (.float (.zero false))
  else if text = "False" then some (.bool false)
  else if text = "None" then some .null
  else if text = "()" then some (.tuple [])
  else none

/-- The default that the declaration of a parameter gives: what follows its equals sign. -/
def declaredDefault? (name declaration : String) : Option String :=
  (Text.cutAt '=' (declaration.toList.drop name.toList.length)).2.map fun rest =>
    String.ofList (rest.drop 1)

section

variable {name hint : String} (h : '=' ∉ hint.toList)

include h

theorem declaredDefault?_required : declaredDefault? name (name ++ ": " ++ hint) = none := by
  have hnone : '=' ∉ (": " ++ hint).toList := by
    rw [String.toList_append]
    exact List.not_mem_append (by decide) h
  rw [declaredDefault?, String.append_assoc, String.toList_append, List.drop_left,
    Text.cutAt_of_not_mem hnone]
  rfl

theorem declaredDefault?_defaulted (literal : String) :
    declaredDefault? name (name ++ ": " ++ hint ++ " = " ++ literal) = some literal := by
  have hnone : '=' ∉ (": " ++ hint ++ " ").toList := by
    rw [String.toList_append, String.toList_append]
    exact List.not_mem_append (List.not_mem_append (by decide) h) (by decide)
  have hcut : (": " ++ hint ++ " = " ++ literal).toList =
      (": " ++ hint ++ " ").toList ++ '=' :: (' ' :: literal.toList) := by
    simp [String.toList_append]
  rw [declaredDefault?, String.append_assoc, String.append_assoc, String.append_assoc,
    String.toList_append, List.drop_left, ← String.append_assoc, ← String.append_assoc, hcut,
    Text.cutAt_append_cons hnone]
  simp

end

/-- The literal of the default of a field's parameter. -/
def defaultLiteral? (f : Field) : Option String :=
  if f.isRepeated then some "()"
  else if !f.isOptional then none
  else if categoryOf f = .map then some "None"
  else some (categoryOf f).default

theorem isSome_defaultLiteral? (f : Field) : (defaultLiteral? f).isSome = hasDefault f := by
  unfold defaultLiteral? hasDefault
  cases f.isRepeated with
  | true => simp
  | false =>
    cases f.isOptional with
    | false => simp
    | true =>
      simp only [Bool.false_eq_true, if_false, Bool.not_true, Bool.or_false]
      split <;> rfl

theorem declaredDefault?_paramDeclaration (f : Field) :
    declaredDefault? (identifier f.name) (paramDeclaration f) = defaultLiteral? f := by
  have hhint : ∀ category : Category, '=' ∉ category.hint.toList ∧
      '=' ∉ ("Sequence[" ++ category.hint ++ "]").toList ∧
      '=' ∉ (category.hint ++ " | None").toList := by
    intro category
    cases category <;> decide
  obtain ⟨hplain, hsequence, hnullable⟩ := hhint (categoryOf f)
  unfold paramDeclaration defaultLiteral?
  dsimp only
  generalize identifier f.name = name
  generalize (categoryOf f).hint = hint at hplain hsequence hnullable ⊢
  split
  · have heq : name ++ ": Sequence[" ++ hint ++ "] = ()" =
        name ++ ": " ++ ("Sequence[" ++ hint ++ "]") ++ " = " ++ "()" := by
      rw [← String.toList_inj]
      simp [String.toList_append]
    rw [heq]
    exact declaredDefault?_defaulted hsequence "()"
  · split
    · exact declaredDefault?_required hplain
    · split
      · have heq : name ++ ": " ++ hint ++ " | None = None" =
            name ++ ": " ++ (hint ++ " | None") ++ " = " ++ "None" := by
          rw [← String.toList_inj]
          simp [String.toList_append]
        rw [heq]
        exact declaredDefault?_defaulted hnullable "None"
      · exact declaredDefault?_defaulted hplain _

/-! ## Reading conditions -/

/-- What has to hold of a parameter's value. -/
inductive Condition where
  /-- It counts as true. -/
  | truth
  | notNull
  | unequal (literal : Value)

/-- The condition holds of the value. -/
def Condition.holds : Condition → Value → Bool
  | .truth, held => held.isTrue
  | .notNull, held => !held.sameKey .null
  | .unequal literal, held => !held.sameKey literal

/-- The condition that a name is the beginning of, by what follows the name. -/
def Condition.ofRest? (rest : String) : Option Condition :=
  if rest = "" then some .truth
  else if rest = " is not None" then some .notNull
  else if rest.toList.take 4 = " != ".toList then
    (literal? (String.ofList (rest.toList.drop 4))).map .unequal
  else none

/-- The condition on the parameter of the name. -/
def condition? (name text : String) : Option Condition :=
  if name.toList.isPrefixOf text.toList then
    Condition.ofRest? (String.ofList (text.toList.drop name.toList.length))
  else none

theorem condition?_append (name rest : String) :
    condition? name (name ++ rest) = Condition.ofRest? rest := by
  rw [condition?, if_pos (by simp [String.toList_append]), String.toList_append, List.drop_left,
    String.ofList_toList]

theorem condition?_truth (name : String) : condition? name name = some .truth := by
  have hread := condition?_append name ""
  rwa [String.append_empty] at hread

theorem condition?_notNull (name : String) :
    condition? name (name ++ " is not None") = some .notNull := by
  rw [condition?_append]
  rfl

theorem condition?_unequal (name : String) {text : String} {literal : Value}
    (h : literal? text = some literal) :
    condition? name (name ++ " != " ++ text) = some (.unequal literal) := by
  have hrest : (" != " ++ text).toList = ' ' :: '!' :: '=' :: ' ' :: text.toList := by
    rw [String.toList_append]
    rfl
  have hne : ∀ other : String, other.toList.take 2 ≠ [' ', '!'] → " != " ++ text ≠ other := by
    rintro other hother rfl
    rw [hrest] at hother
    exact hother rfl
  rw [String.append_assoc, condition?_append, Condition.ofRest?, if_neg (hne _ (by decide)),
    if_neg (hne _ (by decide)), hrest, if_pos (by rfl)]
  simp [h]

/-! ## Declarations and statements -/

/-- A declaration agrees with how its parameter gets into the request. -/
structure Agrees (declaration : String) (view : FieldView) : Prop where
  declares : Declares declaration view.param
  /-- The parameter is sent under a condition if it has a default, and always if it has none. -/
  guarded : (declaredDefault? view.param declaration).isSome ↔ view.omitCondition ≠ ""
  /-- The condition does not hold of the default. -/
  omitted : ∀ text, declaredDefault? view.param declaration = some text →
    ∃ default condition, literal? text = some default ∧
      condition? view.param view.omitCondition = some condition ∧ condition.holds default = false

theorem FieldView.of_param (f : Field) : (FieldView.of f).param = identifier f.name := by
  unfold FieldView.of
  split
  · rfl
  · split <;> rfl

/-- The default of every category that has one of its own is a literal, which equals itself. -/
theorem exists_literal_default {category : Category} (hmap : category ≠ .map) :
    ∃ default, literal? category.default = some default ∧ default.sameKey default = true := by
  cases category with
  | text => exact ⟨.text "", rfl, by simp [Value.sameKey]⟩
  | integer => exact ⟨.int 0, rfl, by simp [Value.sameKey, Value.toInt?]⟩
  | float => exact ⟨.float (.zero false), rfl, by rw [Value.sameKey]; decide⟩
  | boolean => exact ⟨.bool false, rfl, by simp [Value.sameKey, Value.toInt?]⟩
  | map => exact absurd rfl hmap
  | dynamic => exact ⟨.null, rfl, by simp [Value.sameKey]⟩

/-- The default of a field's parameter does not meet the condition under which it is sent. -/
theorem default_omitted {f : Field} {text : String} (h : defaultLiteral? f = some text) :
    ∃ default condition, literal? text = some default ∧
      condition? (identifier f.name) (FieldView.of f).omitCondition = some condition ∧
        condition.holds default = false := by
  unfold defaultLiteral? at h
  unfold FieldView.of
  dsimp only
  split at h
  · next hrepeated =>
    cases h
    rw [if_pos hrepeated]
    exact ⟨.tuple [], .truth, rfl, condition?_truth _, rfl⟩
  split at h
  · cases h
  next hrepeated hrequired =>
  rw [if_neg hrepeated, if_neg hrequired]
  dsimp only
  generalize categoryOf f = category at h ⊢
  split at h
  · next hmap =>
    cases h
    rw [hmap]
    exact ⟨.null, .truth, rfl, condition?_truth _, rfl⟩
  · next hmap =>
    cases h
    obtain ⟨default, hliteral, hsame⟩ := exists_literal_default hmap
    have hunequal : (Condition.unequal default).holds default = false := by
      simp [Condition.holds, hsame]
    cases category with
    | map => exact absurd rfl hmap
    | dynamic =>
      exact ⟨.null, .notNull, rfl, condition?_notNull _, by simp [Condition.holds, Value.sameKey]⟩
    | text => exact ⟨default, _, hliteral, condition?_unequal _ hliteral, hunequal⟩
    | integer => exact ⟨default, _, hliteral, condition?_unequal _ hliteral, hunequal⟩
    | float => exact ⟨default, _, hliteral, condition?_unequal _ hliteral, hunequal⟩
    | boolean => exact ⟨default, _, hliteral, condition?_unequal _ hliteral, hunequal⟩

/-- The parameter has a default, and the condition under which it is sent is its name, which is
empty. -/
def Conditionless (f : Field) : Prop :=
  f.name = "" ∧ (f.isRepeated = true ∨ f.isOptional = true ∧ categoryOf f = .map)

theorem omitCondition_ne_empty_iff (f : Field) :
    (FieldView.of f).omitCondition ≠ "" ↔ hasDefault f = true ∧ ¬ Conditionless f := by
  have hname : identifier f.name ≠ "" ↔ f.name ≠ "" :=
    ⟨fun h heq => h (by rw [heq]; rfl), identifier_ne_empty⟩
  unfold FieldView.of hasDefault Conditionless
  dsimp only
  cases hrepeated : f.isRepeated with
  | true => simpa using hname
  | false =>
    cases hoptional : f.isOptional with
    | false => simp
    | true =>
      generalize categoryOf f = category
      cases category with
      | map => simpa using hname
      | dynamic => simp
      | text => simp
      | integer => simp
      | float => simp
      | boolean => simp

theorem agrees_iff (f : Field) :
    Agrees (paramDeclaration f) (FieldView.of f) ↔ ¬ Conditionless f := by
  have hdefault := declaredDefault?_paramDeclaration f
  have hcondition := omitCondition_ne_empty_iff f
  rw [← FieldView.of_param] at hdefault
  constructor
  · intro h hless
    have hguarded := h.guarded
    rw [hdefault, isSome_defaultLiteral?, hcondition] at hguarded
    have hhas : hasDefault f = true := by
      rcases hless.2 with hrepeated | ⟨hoptional, -⟩
      · simp [hasDefault, hrepeated]
      · simp [hasDefault, hoptional]
    exact (hguarded.mp hhas).2 hless
  · intro h
    refine ⟨?_, ?_, fun text htext => ?_⟩
    · rw [FieldView.of_param]
      exact paramDeclaration_declares f
    · rw [hdefault, isSome_defaultLiteral?, hcondition]
      simp [h]
    · rw [FieldView.of_param]
      exact default_omitted (hdefault.symm.trans htext)

/-! ## Calls -/

/-- What a parameter holds in the body: its argument, or the default that its declaration gives. -/
def held? (name declaration : String) : Option Value → Option Value
  | some argument => some argument
  | none => (declaredDefault? name declaration).bind literal?

/-- What the statement of a field puts into the request, if its condition is met: what the parameter
holds, or the list that the generated code makes of it. -/
def FieldView.sent? (listed : Value → Value) (view : FieldView) (held : Value) : Option Value :=
  if view.omitCondition = "" ∨ (condition? view.param view.omitCondition).any (·.holds held) then
    some (if view.value = view.param then held else listed held)
  else none

/-- What a call sends of a field, by the argument for its parameter. -/
def sentArgument? (listed : Value → Value) (f : Field) (argument : Option Value) : Option Value :=
  (held? (identifier f.name) (paramDeclaration f) argument).bind ((FieldView.of f).sent? listed)

/-- The request of a call, which may leave arguments out. -/
def sentRequest (listed : Value → Value) (fields : List Field) (arguments : List (Option Value)) :
    Value :=
  requestObject (fields.map FieldView.of) (List.zipWith (sentArgument? listed) fields arguments)

/-- An argument that is left out is not sent. -/
theorem sentArgument?_none {f : Field} (hdefault : hasDefault f = true)
    (hguarded : ¬ Conditionless f) (listed : Value → Value) :
    sentArgument? listed f none = none := by
  rw [← isSome_defaultLiteral?] at hdefault
  obtain ⟨text, htext⟩ := Option.isSome_iff_exists.mp hdefault
  obtain ⟨default, condition, hliteral, hcondition, hfails⟩ := default_omitted htext
  have hheld : held? (identifier f.name) (paramDeclaration f) none = some default := by
    rw [held?, declaredDefault?_paramDeclaration, htext, Option.bind_some, hliteral]
  have hnonempty : (FieldView.of f).omitCondition ≠ "" :=
    (omitCondition_ne_empty_iff f).mpr ⟨isSome_defaultLiteral? f ▸ hdefault, hguarded⟩
  rw [sentArgument?, hheld, Option.bind_some, FieldView.sent?, FieldView.of_param, hcondition]
  simp [hnonempty, hfails]

/-- The key of an argument that is not sent is in the request only for another field. -/
theorem get?_sentRequest_eq_none {listed : Value → Value} {before after : List Field} {f : Field}
    {given given' : List (Option Value)} {argument : Option Value}
    (hlength : given.length = before.length) (hunsent : sentArgument? listed f argument = none)
    (hkey : f.jsonName ∉ (before ++ after).map Field.jsonName) :
    (sentRequest listed (before ++ f :: after) (given ++ argument :: given')).get? f.jsonName =
      none := by
  rw [List.map_append, List.mem_append, not_or] at hkey
  refine get?_requestObject_eq_none fun hmem => ?_
  obtain ⟨⟨key, value⟩, hentry, hsame⟩ := List.mem_map.mp hmem
  obtain rfl : key = f.jsonName := hsame
  rw [mem_givenEntries_iff, map_jsonName_views, List.zipWith_append hlength.symm, List.map_append,
    List.zip_append (by simp [hlength]), List.mem_append, List.map_cons, List.zipWith_cons_cons,
    List.zip_cons_cons, List.mem_cons] at hentry
  rcases hentry with hbefore | hself | hafter
  · exact hkey.1 (List.of_mem_zip hbefore).1
  · rw [hunsent] at hself
    cases hself
  · exact hkey.2 (List.of_mem_zip hafter).1

/-- **Signatures and what the body makes of them.** Every list of fields has a well-formed
signature. Its i-th declaration and the i-th statement of the body name one parameter, the statement
has a condition exactly if the declaration gives a default, and the default does not meet it; but
for fields of which the condition is an empty name. So a key whose argument is left out of a call is
left out of the request, if no other field has the key. -/
theorem params_signature (listed : Value → Value) (fields : List Field) :
    WellFormed fields ∧
    (∀ f, (declaredDefault? (identifier f.name) (paramDeclaration f)).isSome = hasDefault f) ∧
    (List.Forall₂ Agrees (fields.map paramDeclaration) (fields.map FieldView.of) ↔
      ∀ f ∈ fields, ¬ Conditionless f) ∧
    ∀ before f after, fields = before ++ f :: after → hasDefault f = true → ¬ Conditionless f →
      f.jsonName ∉ (before ++ after).map Field.jsonName →
      ∀ given given', given.length = before.length →
        (sentRequest listed fields (given ++ none :: given')).get? f.jsonName = none := by
  refine ⟨params_wellFormed fields, fun f => ?_, ?_, ?_⟩
  · rw [declaredDefault?_paramDeclaration, isSome_defaultLiteral?]
  · rw [List.forall₂_map_left_iff, List.forall₂_map_right_iff, List.forall₂_same]
    simp only [agrees_iff]
  · rintro before f after rfl hdefault hguarded hkey given given' hlength
    exact get?_sentRequest_eq_none hlength (sentArgument?_none hdefault hguarded listed) hkey

/-- A field with a default before one without: the star stands first, and the request of a call that
leaves the first argument out has the second only. -/
theorem params_signature_greeting :
    let fields : List Field :=
      [⟨"loud", "loud", "bool", true, false⟩, ⟨"name", "name", "string", false, false⟩]
    params fields = ["*", "loud: bool = False", "name: str", "timeout: float | None = None",
        "cancel: CancelToken | None = None"] ∧
      (sentRequest id fields [none, some (.text "Ann")]).get? "loud" = none ∧
      sentRequest id fields [none, some (.text "Ann")] =
        .dict [(.text "name", .text "Ann")] := by
  intro fields
  obtain ⟨-, -, -, hleftOut⟩ := params_signature id fields
  refine ⟨by decide +kernel, ?_, rfl⟩
  refine hleftOut [] _ _ rfl rfl (fun h => ?_) (by decide) [] [some (.text "Ann")] rfl
  exact absurd h.1 (by decide)

/-- Two calls that leave an argument out and have its key in their request all the same: the
condition of a repeated field without a name is empty, so the field is always sent; and a field may
have the key of another, which is sent. -/
theorem left_out_keys_kept :
    let tags : Field := ⟨"", "tags", "string", false, true⟩
    let nick : Field := ⟨"nick", "name", "string", true, false⟩
    let name : Field := ⟨"name", "name", "string", false, false⟩
    (hasDefault tags = true ∧ params [tags] = [": Sequence[str] = ()", "*",
        "timeout: float | None = None", "cancel: CancelToken | None = None"] ∧
      (FieldView.of tags).omitCondition = "" ∧
      sentRequest (fun _ => .list []) [tags] [none] = .dict [(.text "tags", .list [])]) ∧
    (hasDefault nick = true ∧ nick.jsonName = name.jsonName ∧
      sentRequest id [nick, name] [none, some (.text "Ann")] =
        .dict [(.text "name", .text "Ann")]) := by
  refine ⟨⟨rfl, ?_, ?_, rfl⟩, rfl, rfl, rfl⟩
  · decide +kernel
  · decide +kernel

end ConnectRpc.Stub
