import ConnectRpc.Proofs.Stub.Identifiers
import Mathlib.Data.List.Forall2

/-!
# Parameters of a stub

A stub has a parameter for each field of its request, between the object it belongs to and the two
settings of the call. Each is declared under the name that the body reads it by, and no parameter
has a keyword for its name or one that the body needs for something else.

The parameters do not claim their names as the members of a class do, so two fields may give
parameters of one name, and then the stub is no function of the generated language. This happens
exactly if their names have one snake form, or if one of these is a name to avoid and the other is
what it is escaped to (`params_names`). Fields of different names may be such a pair
(`snake_forms_collide`).
-/

namespace ConnectRpc.Stub

open Schema

/-! ## Declarations -/

/-- The declaration declares a parameter of the name. -/
def Declares (declaration name : String) : Prop := ∃ hint, declaration = name ++ ": " ++ hint

theorem paramDeclaration_declares (f : Field) :
    Declares (paramDeclaration f) (identifier f.name) := by
  have hsequence : ": Sequence[" = ": " ++ "Sequence[" := by decide
  unfold paramDeclaration
  dsimp only
  split
  · exact ⟨"Sequence[" ++ (categoryOf f).hint ++ "] = ()", by
      simp only [hsequence, String.append_assoc]⟩
  · split
    · exact ⟨(categoryOf f).hint, rfl⟩
    · split
      · exact ⟨(categoryOf f).hint ++ " | None = None", by simp only [String.append_assoc]⟩
      · exact ⟨(categoryOf f).hint ++ " = " ++ (categoryOf f).default, by
          simp only [String.append_assoc]⟩

/-- The star between the parameters declares none. -/
theorem Declares.ne_star {declaration name : String} (h : Declares declaration name) :
    declaration ≠ "*" := by
  obtain ⟨hint, rfl⟩ := h
  intro heq
  have hlength := congrArg (fun s => s.toList.length) heq
  simp only [String.toList_append, List.length_append] at hlength
  have htwo : ": ".toList.length = 2 := rfl
  have hone : "*".toList.length = 1 := rfl
  omega

theorem filter_fieldParams (starred : Bool) (fields : List Field) :
    (fieldParams starred fields).filter (· ≠ "*") = fields.map paramDeclaration := by
  induction fields generalizing starred with
  | nil => cases starred <;> simp [fieldParams]
  | cons f rest ih =>
    have hne := (paramDeclaration_declares f).ne_star
    rw [fieldParams]
    split
    · simpa [hne] using ih true
    · simpa [hne] using ih starred

/-- The names of a stub's parameters, in their order. -/
def paramNames (fields : List Field) : List String :=
  "self" :: (fields.map fun f => identifier f.name) ++ ["timeout", "cancel"]

/-- Apart from the star, the parameters behind the object declare the names of the fields and those
of the two settings, in this order. -/
theorem params_declare (fields : List Field) :
    List.Forall₂ Declares ((params fields).filter (· ≠ "*")) (paramNames fields).tail := by
  have hfilter : (params fields).filter (· ≠ "*") = fields.map paramDeclaration ++ callParams := by
    rw [params, List.filter_append, filter_fieldParams]
    rfl
  rw [hfilter]
  refine List.rel_append ?_ ?_
  · rw [List.forall₂_map_left_iff, List.forall₂_map_right_iff, List.forall₂_same]
    exact fun f _ => paramDeclaration_declares f
  · exact .cons ⟨"float | None = None", by decide⟩
      (.cons ⟨"CancelToken | None = None", by decide⟩ .nil)

/-! ## Names -/

/-- No parameter has a keyword for its name, or the name of what the body builds or calls. -/
theorem free_of_mem_paramNames {fields : List Field} {name : String}
    (h : name ∈ paramNames fields) :
    name ∉ keywords ∧ name ≠ "request_data" ∧ name ≠ "list" := by
  have hsettings : ∀ name ∈ ["self", "timeout", "cancel"],
      name ∉ keywords ∧ name ≠ "request_data" ∧ name ≠ "list" := by decide
  have hcases : name ∈ ["self", "timeout", "cancel"] ∨
      name ∈ fields.map fun f => identifier f.name := by
    simp only [paramNames, List.cons_append, List.mem_cons, List.mem_append] at h ⊢
    tauto
  rcases hcases with hname | hname
  · exact hsettings name hname
  · obtain ⟨f, -, rfl⟩ := List.mem_map.mp hname
    have hfree := identifier_not_mem_avoided f.name
    have hreserved : ∀ name ∈ ["request_data", "list"], name ∈ avoided := by decide
    refine ⟨fun hkeyword => hfree (List.mem_append_left _ hkeyword), fun heq => ?_, fun heq => ?_⟩
    · rw [heq] at hfree
      exact hfree (hreserved _ (by decide))
    · rw [heq] at hfree
      exact hfree (hreserved _ (by decide))

/-- Two fields whose parameters get one name. -/
def Clash (f g : Field) : Prop :=
  snakeCase f.name = snakeCase g.name ∨
    (snakeCase f.name ∈ avoided ∧ snakeCase g.name = snakeCase f.name ++ "_") ∨
    (snakeCase g.name ∈ avoided ∧ snakeCase f.name = snakeCase g.name ++ "_")

theorem nodup_paramNames_iff (fields : List Field) :
    (paramNames fields).Nodup ↔ fields.Pairwise fun f g => ¬ Clash f g := by
  have hsettings : ∀ name ∈ ["self", "timeout", "cancel"], name ∈ avoided := by decide
  have hfree : ∀ name ∈ fields.map fun f => identifier f.name,
      name ∉ ["self", "timeout", "cancel"] := by
    intro name hname hsetting
    obtain ⟨f, -, rfl⟩ := List.mem_map.mp hname
    exact identifier_not_mem_avoided _ (hsettings _ hsetting)
  have hfields : (paramNames fields).Nodup ↔
      (fields.map fun f => identifier f.name).Nodup := by
    simp only [paramNames, List.cons_append, List.nodup_cons, List.nodup_append, List.mem_append,
      List.mem_cons] at hfree ⊢
    grind
  rw [hfields, List.Nodup, List.pairwise_map]
  simp only [ne_eq, identifier_eq_identifier_iff, Clash, underscored_one]

/-- **The names of a stub's parameters.** Its signature declares, around the star, a parameter for
each field and the two settings of the call, and the body reads the field's value from that
parameter. None of the names is a keyword or one that the body needs otherwise. They are pairwise
distinct exactly if no two fields clash. -/
theorem params_names (fields : List Field) :
    List.Forall₂ Declares ((params fields).filter (· ≠ "*")) (paramNames fields).tail ∧
    (∀ f ∈ fields, (FieldView.of f).param = identifier f.name ∧
      ((FieldView.of f).value = identifier f.name ∨
        (FieldView.of f).value = "list(" ++ identifier f.name ++ ")")) ∧
    (∀ name ∈ paramNames fields, name ∉ keywords ∧ name ≠ "request_data" ∧ name ≠ "list") ∧
    ((paramNames fields).Nodup ↔ fields.Pairwise fun f g => ¬ Clash f g) := by
  refine ⟨params_declare fields, fun f _ => ?_, fun name => free_of_mem_paramNames,
    nodup_paramNames_iff fields⟩
  unfold FieldView.of
  split
  · exact ⟨rfl, .inr rfl⟩
  · split
    · exact ⟨rfl, .inl rfl⟩
    · exact ⟨rfl, .inl rfl⟩

/-- Two fields of different names, and one parameter declared twice. -/
theorem snake_forms_collide :
    let fields : List Field :=
      [⟨"userId", "userId", "string", false, false⟩, ⟨"user_id", "user_id", "string", false, false⟩]
    (fields.map Field.name).Nodup ∧ ¬ (paramNames fields).Nodup ∧
      params fields = ["user_id: str", "user_id: str", "*", "timeout: float | None = None",
        "cancel: CancelToken | None = None"] := by
  refine ⟨by decide, by decide +kernel, by decide +kernel⟩

end ConnectRpc.Stub
