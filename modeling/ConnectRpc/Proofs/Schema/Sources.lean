import ConnectRpc.Proofs.Json.LongNumerals
import ConnectRpc.Schema.Source

/-!
# How the reading of a schema file ends

A file holds a schema, or it has a fault that is told in words, or its reading fails in a way that
was not anticipated. The last has one of two causes (`Unanticipated`): a JSON text with a whole
number of too many digits, or a text that is read as YAML and that the loader fails on without
calling it malformed. `readSource_unanticipated_iff` says so of every loader, every name and every
text, and that each of the causes does have this effect.

What makes a JSON text fail is said by `Json.read_eq_numeralTooLong_iff`; the loader is whatever it
is.
-/

namespace ConnectRpc.Schema

/-- The text of a file is read as YAML. -/
def IsYaml (name : SlashPath) (cs : List Char) : Prop :=
  yamlSuffixes.contains name.suffix = true ∨ Json.read cs = .error .malformed

variable {α : Type} (load : YamlLoader α)

/-- A cause for the reading of a text to fail in a way that was not anticipated. -/
inductive Unanticipated (name : SlashPath) (cs : List Char) : SourceError → Prop where
  /-- A whole number of the JSON text has too many digits. -/
  | numeral {digits : Nat} (notYaml : yamlSuffixes.contains name.suffix = false)
      (long : Json.LongNumeral cs digits) : Unanticipated name cs (.numeralTooLong digits)
  /-- The loader of YAML texts fails. -/
  | loader {reason : String} (isYaml : IsYaml name cs) (failed : load cs = .failed reason) :
      Unanticipated name cs (.loaderFailed reason)

variable {load} [Document (List Text.Point) α]

/-- A document has a schema, or its fault is told in words. -/
theorem schemaText?_ne_none_of_document {β : Type} [Document (List Text.Point) β] {d : β}
    {e : SourceError} (h : (readSchema d).mapError SourceError.document = .error e) :
    e.schemaText? ≠ none := by
  cases hread : readSchema d with
  | ok files =>
    rw [hread] at h
    cases h
  | error e' =>
    rw [hread] at h
    cases h
    exact Option.some_ne_none _

theorem readYaml_unanticipated_iff {cs : List Char} {e : SourceError} :
    readYaml load cs = .error e ∧ e.schemaText? = none ↔
      ∃ reason, e = .loaderFailed reason ∧ load cs = .failed reason := by
  unfold readYaml
  constructor
  · rintro ⟨h, htext⟩
    cases hload : load cs with
    | malformed problem =>
      rw [hload] at h
      cases h
      cases htext
    | failed reason =>
      rw [hload] at h
      cases h
      exact ⟨reason, rfl, rfl⟩
    | value part? =>
      rw [hload] at h
      cases part? with
      | none =>
        cases h
        cases htext
      | some part => exact absurd htext (schemaText?_ne_none_of_document h)
  · rintro ⟨reason, rfl, hload⟩
    rw [hload]
    exact ⟨rfl, rfl⟩

theorem readJsonOrYaml_unanticipated_iff {cs : List Char} {e : SourceError} :
    readJsonOrYaml load cs = .error e ∧ e.schemaText? = none ↔
      (∃ digits, e = .numeralTooLong digits ∧ Json.LongNumeral cs digits) ∨
        Json.read cs = .error .malformed ∧
          ∃ reason, e = .loaderFailed reason ∧ load cs = .failed reason := by
  simp only [← Json.read_eq_numeralTooLong_iff]
  unfold readJsonOrYaml
  cases hread : Json.read cs with
  | ok v =>
    simp only [reduceCtorEq, and_false, exists_false, false_and, or_false, iff_false, not_and]
    exact schemaText?_ne_none_of_document
  | error fault =>
    cases fault with
    | numeralTooLong digits =>
      simp only [Except.error.injEq, Json.ReadError.numeralTooLong.injEq, reduceCtorEq, false_and,
        or_false]
      constructor
      · rintro ⟨rfl, -⟩
        exact ⟨digits, rfl, rfl⟩
      · rintro ⟨_, rfl, rfl⟩
        exact ⟨rfl, rfl⟩
    | malformed =>
      simp only [Except.error.injEq, reduceCtorEq, and_false, exists_false, false_or, true_and]
      exact readYaml_unanticipated_iff

/-- The reading of a file fails in a way that was not anticipated exactly if there is a cause. -/
theorem readSource_unanticipated_iff {name : SlashPath} {bytes : Bytes} {cs : List Char}
    {e : SourceError} (h : Utf8.decodeChars? bytes = some cs) :
    readSource load name bytes = .error e ∧ e.schemaText? = none ↔
      Unanticipated load name (Text.unifyBreaks cs) e := by
  unfold readSource
  rw [h]
  dsimp only
  by_cases hyaml : yamlSuffixes.contains name.suffix = true
  · rw [if_pos hyaml, readYaml_unanticipated_iff]
    constructor
    · rintro ⟨reason, rfl, hload⟩
      exact .loader (.inl hyaml) hload
    · intro hcause
      cases hcause with
      | numeral notYaml long => rw [notYaml] at hyaml; cases hyaml
      | loader _ failed => exact ⟨_, rfl, failed⟩
  · have hjson : yamlSuffixes.contains name.suffix = false := by simpa using hyaml
    rw [if_neg hyaml, readJsonOrYaml_unanticipated_iff]
    constructor
    · rintro (⟨digits, rfl, hlong⟩ | ⟨hread, reason, rfl, hload⟩)
      · exact .numeral hjson hlong
      · exact .loader (.inr hread) hload
    · intro hcause
      cases hcause with
      | numeral _ long => exact .inl ⟨_, rfl, long⟩
      | loader isYaml failed =>
        exact .inr ⟨isYaml.resolve_left hyaml, _, rfl, failed⟩

end ConnectRpc.Schema
