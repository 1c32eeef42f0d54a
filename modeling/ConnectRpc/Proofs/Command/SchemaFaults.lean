import ConnectRpc.Command.Readers
import ConnectRpc.Proofs.Command.Stages
import ConnectRpc.Proofs.Schema.Sources

/-!
# Faults of schema files on the command line

A run whose schema file has a fault that is told in words ends with exit code 1 and these words, and
writes nothing (`endsTelling_of_schemaText`). Not every fault of a file is: besides a schema and a
fault in words, the reading of a file can end in a failure for the causes of
`ConnectRpc.Proofs.Schema.Sources`, and for no others (`schemaFile_answered`). A loader that fails
on a date out of its range gives such a cause (`date_not_told`).
-/

namespace ConnectRpc.Command

open Schema (SourceError YamlLoader readSource)

variable {α : Type} [Schema.Document (List Text.Point) α]

/-! ## Faults that are told -/

/-- Every run whose schema file has this name and content, with settings that make a profile, ends
with exit code 1 and tells just this; it prints no path and changes no file. -/
def EndsTelling (readers : Readers α) (path : SlashPath) (bytes : Bytes) (line : String) : Prop :=
  ∀ (arguments : List String) (job : Job) (profile : Stub.Profile) (t : FileTree),
    Job.ofArguments arguments = .ok job → SlashPath.parse job.schema = path →
    Stub.Profile.make job.settings = .ok profile → t.readFile path = .ok bytes →
    ∃ report, (run arguments readers FileTree.storage).run t = (report, t) ∧
      report.exitCode = 1 ∧ report.output = [] ∧ report.remarks = [line]

/-- A run over a file without a schema ends with its fault and leaves all files as they are. -/
theorem run_of_sourceError {readers : Readers α} {arguments : List String} {job : Job}
    {profile : Stub.Profile} {t : FileTree} {bytes : Bytes} {e : SourceError}
    (hjob : Job.ofArguments arguments = .ok job)
    (hprofile : Stub.Profile.make job.settings = .ok profile)
    (hfile : t.readFile (.parse job.schema) = .ok bytes)
    (hsuffix : compiledSuffixes.contains (SlashPath.parse job.schema).suffix = false)
    (hsource : readSource readers.yaml (.parse job.schema) bytes = .error e) :
    (run arguments readers FileTree.storage).run t = (⟨[], .failed (.source e)⟩, t) := by
  have hschema : readSchema readers (.parse job.schema) bytes = ([], .error (.source e)) := by
    rw [readSchema, if_neg (by simpa using hsuffix), readDocument, hsource]
  rw [run_of_schema_error hjob hprofile hfile (congrArg Prod.snd hschema), hschema]
  rfl

theorem endsTelling_of_schemaText (readers : Readers α) {path : SlashPath} {bytes : Bytes}
    {e : SourceError} {text : String} (hsuffix : compiledSuffixes.contains path.suffix = false)
    (hsource : readSource readers.yaml path bytes = .error e) (htext : e.schemaText? = some text) :
    EndsTelling readers path bytes ("error: " ++ text) := by
  rintro arguments job profile t hjob rfl hprofile hfile
  refine ⟨_, run_of_sourceError hjob hprofile hfile hsuffix hsource, rfl, rfl, ?_⟩
  simp [Report.remarks, RunError.message?, htext]

/-! ## All files -/

/-- **Files of UTF-8 text.** Whatever the loader of YAML texts does, a file holds a schema, or every
run over it tells its fault and ends with exit code 1, or there is a cause for a failure that was
not anticipated: a long number in a file that is JSON up to there, or a failure of the loader. Each
of these causes always makes it fail so. -/
theorem schemaFile_answered (load : YamlLoader α) {path : SlashPath} {bytes : Bytes}
    {cs : List Char} (hutf : Utf8.decodeChars? bytes = some cs) :
    ((∃ files, readSource load path bytes = .ok files) ∨
      (∃ e text, readSource load path bytes = .error e ∧ e.schemaText? = some text ∧
        (compiledSuffixes.contains path.suffix = false →
          ∀ compiled, EndsTelling ⟨load, compiled⟩ path bytes ("error: " ++ text))) ∨
      ∃ e, Schema.Unanticipated load path (Text.unifyBreaks cs) e) ∧
    ∀ e, Schema.Unanticipated load path (Text.unifyBreaks cs) e ↔
      readSource load path bytes = .error e ∧ e.schemaText? = none := by
  refine ⟨?_, fun e => (Schema.readSource_unanticipated_iff hutf).symm⟩
  cases hsource : readSource load path bytes with
  | ok files => exact .inl ⟨files, rfl⟩
  | error e =>
    cases htext : e.schemaText? with
    | some text =>
      refine .inr (.inl ⟨e, text, rfl, htext, fun hsuffix compiled => ?_⟩)
      exact endsTelling_of_schemaText ⟨load, compiled⟩ hsuffix hsource htext
    | none =>
      exact .inr (.inr ⟨e, (Schema.readSource_unanticipated_iff hutf).mp ⟨hsource, htext⟩⟩)

/-- A list of schemas beside a date that does not exist. -/
def datedText : String := "files: []\nx: 2024-13-45"

theorem readSource_datedText :
    readSource Yaml.load (.parse "s.yml") (Utf8.encode datedText) =
      .error (.loaderFailed "month must be in 1..12") := by decide +kernel

/-- The date is the cause for the failure of its file. -/
theorem schemaFile_answered_date :
    Utf8.decodeChars? (Utf8.encode datedText) = some datedText.toList ∧
      Schema.Unanticipated Yaml.load (.parse "s.yml") (Text.unifyBreaks datedText.toList)
        (.loaderFailed "month must be in 1..12") := by
  have hutf : Utf8.decodeChars? (Utf8.encode datedText) = some datedText.toList := by
    decide +kernel
  exact ⟨hutf, ((schemaFile_answered Yaml.load hutf).2 _).mpr ⟨readSource_datedText, rfl⟩⟩

/-- The date is no fault of the schema that would be told in words. -/
theorem date_not_told :
    ¬ ((∃ files, readSource Yaml.load (.parse "s.yml") (Utf8.encode datedText) = .ok files) ∨
      ∃ e text, readSource Yaml.load (.parse "s.yml") (Utf8.encode datedText) = .error e ∧
        e.schemaText? = some text) := by
  rintro (⟨files, hfiles⟩ | ⟨e, text, he, htext⟩)
  · cases readSource_datedText.symm.trans hfiles
  · cases readSource_datedText.symm.trans he
    cases htext

end ConnectRpc.Command
