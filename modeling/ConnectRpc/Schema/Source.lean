import ConnectRpc.Json.Reader
import ConnectRpc.Schema.Document
import ConnectRpc.Text.Breaks
import ConnectRpc.Text.SlashPath

/-!
# Schema files

A schema document lies in a file of UTF-8 text. A file whose name ends in `.yaml` or `.yml` is YAML;
any other is JSON, or YAML if it is not JSON. YAML texts are left to a loader: whatever type its
documents have, they are read by their shapes.

* `Loaded`: what a loader comes to. It may refuse a text in its own words, or fail otherwise.
* `SourceError`: why a file holds no schema. Only some of the reasons are faults of the schema; the
  others are faults of the text that whoever wrote it cannot have meant.
* `readSource`: the schema of a file.
-/

namespace ConnectRpc.Schema

/-! ## Loaders -/

/-- What a loader comes to. -/
inductive Loaded (α : Type) where
  | value (a : α)
  /-- The input violates the loader's language; the loader says how. -/
  | malformed (problem : String)
  /-- The loader fails for another reason. -/
  | failed (reason : String)
  deriving DecidableEq, Repr

/-- A loader of YAML texts. A text without a document has no value. -/
abbrev YamlLoader (α : Type) := List Char → Loaded (Option α)

/-! ## Sources -/

/-- Why a file holds no schema. -/
inductive SourceError where
  | notUtf8
  /-- A whole number of the JSON text is too long. -/
  | numeralTooLong (digits : Nat)
  /-- The text is no YAML. -/
  | malformed (problem : String)
  /-- The loader of YAML texts failed. -/
  | loaderFailed (reason : String)
  | document (e : DocumentError (List Text.Point))
  deriving DecidableEq, Repr

/-- The suffixes of files that are YAML. -/
def yamlSuffixes : List String := [".yaml", ".yml"]

section

variable {α : Type} [Document (List Text.Point) α] (load : YamlLoader α)

/-- The schema of a YAML text; a text without a document has none. -/
def readYaml (cs : List Char) : Except SourceError (List (File (List Text.Point))) :=
  match load cs with
  | .malformed problem => .error (.malformed problem)
  | .failed reason => .error (.loaderFailed reason)
  | .value none => .error (.document .notAnObject)
  | .value (some part) => (readSchema part).mapError .document

/-- The schema of a text that is JSON or YAML. -/
def readJsonOrYaml (cs : List Char) : Except SourceError (List (File (List Text.Point))) :=
  match Json.read cs with
  | .ok v => (readSchema v).mapError .document
  | .error (.numeralTooLong digits) => .error (.numeralTooLong digits)
  | .error .malformed => readYaml load cs

/-- The schema of a file. -/
def readSource (name : SlashPath) (bytes : Bytes) :
    Except SourceError (List (File (List Text.Point))) :=
  match Utf8.decodeChars? bytes with
  | none => .error .notUtf8
  | some cs =>
    let cs := Text.unifyBreaks cs
    if yamlSuffixes.contains name.suffix then readYaml load cs else readJsonOrYaml load cs

end

/-- The wording of a fault of the schema. -/
def SourceError.schemaText? : SourceError → Option String
  | .malformed problem => some ("Invalid YAML schema: " ++ problem)
  | .document e => some e.message
  | _ => none

end ConnectRpc.Schema
