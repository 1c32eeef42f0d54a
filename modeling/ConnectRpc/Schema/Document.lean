import ConnectRpc.Number.Numeral
import ConnectRpc.Schema.Basic
import ConnectRpc.Schema.JsonName
import ConnectRpc.Value.Basic

/-!
# Schema documents

A schema may be written down as a document of maps, lists, texts and booleans. A document is
anything whose parts have a `Shape`; how deep it goes, and whether parts of it are shared, is its
own affair, for no schema lies deeper than a field's members. Its texts are of characters, or they
may hold halves of characters (`DocumentText`).

* `readSchema`: the schema of a document, or the first thing that is wrong with it.
* `DocumentError`: what can be wrong, and where.

Of several faults the first in this order counts: an object's lists before its own members, a list's
items from the left, and members in the order of the reading functions below.
-/

namespace ConnectRpc.Schema

/-! ## Documents -/

/-- Texts that documents may be made of. -/
class DocumentText (T : Type) where
  points : T → List Text.Point
  ofString : String → T
  /-- The key of a field of this name whose declaration gives none. -/
  jsonName : T → T
  points_inj : ∀ s t, points s = points t → s = t
  points_ofString : ∀ s, points (ofString s) = Text.pointsOf s
  points_jsonName : ∀ name, points (jsonName name) = jsonNamePoints (points name)

/-- Texts of characters. -/
instance : DocumentText String where
  points := Text.pointsOf
  ofString s := s
  jsonName := Schema.jsonName
  points_inj _ _ := Text.pointsOf_inj.mp
  points_ofString _ := rfl
  points_jsonName name := (jsonNamePoints_pointsOf name).symm

@[simp] theorem ofString_string (s : String) : (DocumentText.ofString s : String) = s := rfl

/-- Texts that may hold halves of characters. -/
instance : DocumentText (List Text.Point) where
  points t := t
  ofString := Text.pointsOf
  jsonName := jsonNamePoints
  points_inj _ _ h := h
  points_ofString _ := rfl
  points_jsonName _ := rfl

theorem DocumentText.ofString_inj {T : Type} [DocumentText T] {s t : String} :
    (ofString s : T) = ofString t ↔ s = t := by
  refine ⟨fun h => ?_, fun h => h ▸ rfl⟩
  rw [← Text.pointsOf_inj, ← points_ofString (T := T), ← points_ofString (T := T), h]

/-- What a part of a document looks like from outside. -/
inductive Shape (T α : Type) where
  | null
  | bool (b : Bool)
  | text (s : T)
  | list (items : List α)
  /-- The entries whose keys are texts of characters; no key occurs twice. -/
  | map (entries : List (String × α))
  /-- Any other form, such as a number. -/
  | other

/-- Types whose values are parts of documents. -/
class Document (T : outParam Type) (α : Type) where
  shape : α → Shape T α

/-- The entries of a dictionary whose keys are texts of characters. -/
def textEntries (entries : List (Value × Value)) : List (String × Value) :=
  entries.filterMap fun (key, value) => key.asText?.map (·, value)

instance : Document (List Text.Point) Value where
  shape
    | .null => .null
    | .bool b => .bool b
    | .text s => .text (Text.pointsOf s)
    | .unpaired t => .text t.points
    | .list items => .list items
    | .dict entries => .map (textEntries entries)
    | _ => .other

/-! ## Errors -/

/-- A step from a part of a document to a part of that part. -/
inductive Step where
  | member (name : String)
  | item (index : Nat)
  deriving DecidableEq, Repr

/-- The steps from the document to a part of it. -/
abbrev Place := List Step

namespace Place

/-- The steps as text, behind a text that is there already. -/
def textAfter (front : String) : Place → String
  | [] => front
  | .member name :: rest => textAfter (if front = "" then name else front ++ "." ++ name) rest
  | .item index :: rest => textAfter (front ++ "[" ++ Number.natText index ++ "]") rest

/-- The steps as text: members behind points, indices in brackets. -/
def text (place : Place) : String := textAfter "" place

/-- A member of the part at a place. -/
def member (place : Place) (name : String) : Place := place ++ [.member name]

/-- An item of the list at a place. -/
def item (place : Place) (index : Nat) : Place := place ++ [.item index]

end Place

/-- What a part of a document must be. -/
inductive Form where
  | object
  | list
  | text
  | nonEmptyText
  | boolean
  deriving DecidableEq, Repr

/-- The words for a form. -/
def Form.words : Form → String
  | .object => "an object"
  | .list => "a list"
  | .text => "a string"
  | .nonEmptyText => "a non-empty string"
  | .boolean => "a boolean"

/-- What is wrong with a document. -/
inductive DocumentError (T : Type := String) where
  | notAnObject
  | noFileList
  | wrongForm (place : Place) (form : Form)
  | duplicateMethods (place : Place) (names : List T)
  deriving DecidableEq, Repr

/-- The wording of an error; halves of characters are shown by their escapes. -/
def DocumentError.message {T : Type} [DocumentText T] : DocumentError T → String
  | .notAnObject => "Schema document must be an object"
  | .noFileList => "Schema document must contain a 'files' list"
  | .wrongForm place form => place.text ++ " must be " ++ form.words
  | .duplicateMethods place names =>
    place.text ++ ": duplicate methods " ++
      Text.joinText ", " (names.map fun name => Text.shown (DocumentText.points name))

/-! ## Parts -/

section Parts

variable {T α : Type} [Document T α]

/-- The entries of an object. -/
abbrev Entries (α : Type) := List (String × α)

/-- The member of an object under a key. -/
def Entries.get? (entries : Entries α) (key : String) : Option α :=
  (entries.find? (·.1 == key)).map (·.2)

/-- The entries of a part that must be an object. -/
def readObject (place : Place) (d : α) : Except (DocumentError T) (Entries α) :=
  match Document.shape d with
  | .map entries => .ok entries
  | _ => .error (.wrongForm place .object)

/-- The items of a member that must be a list; a member that is not there has none. -/
def readList (place : Place) : Option α → Except (DocumentError T) (List α)
  | none => .ok []
  | some d =>
    match Document.shape d with
    | .list items => .ok items
    | _ => .error (.wrongForm place .list)

/-- A member that must be a boolean if it is there. -/
def readFlag (place : Place) (d : Option α) : Except (DocumentError T) Bool :=
  match d.map Document.shape with
  | none => .ok false
  | some (.bool b) => .ok b
  | _ => .error (.wrongForm place .boolean)

/-- Reads the items of a list from the left, the first of them having the given index. -/
def readItems {β : Type} (read : Place → α → Except (DocumentError T) β) (place : Place)
    (index : Nat) : List α → Except (DocumentError T) (List β)
  | [] => .ok []
  | d :: rest => do
    let first ← read (place.item index) d
    return first :: (← readItems read place (index + 1) rest)

variable [DecidableEq T] [DocumentText T]

/-- A member that must be a text with characters in it. -/
def readText (place : Place) (d : Option α) : Except (DocumentError T) T :=
  match d.map Document.shape with
  | some (.text s) =>
    if s = DocumentText.ofString "" then .error (.wrongForm place .nonEmptyText) else .ok s
  | _ => .error (.wrongForm place .nonEmptyText)

/-- A member that must be a text if it is there and not null. -/
def readOptionalText (place : Place) (d : Option α) : Except (DocumentError T) T :=
  match d.map Document.shape with
  | none => .ok (DocumentText.ofString "")
  | some .null => .ok (DocumentText.ofString "")
  | some (.text s) => .ok s
  | _ => .error (.wrongForm place .text)

/-! ## Fields, methods, services, files -/

/-- The key of a field: the one that is given, or the one that follows from the name. -/
def readJsonName (place : Place) (name : T) (d : Option α) : Except (DocumentError T) T :=
  match d.map Document.shape with
  | none => .ok (DocumentText.jsonName name)
  | some .null => .ok (DocumentText.jsonName name)
  | _ => readText place d

/-- A field. -/
def readField (place : Place) (d : α) : Except (DocumentError T) (Field T) := do
  let entries ← readObject place d
  let name ← readText (place.member "name") (entries.get? "name")
  let isOptional ← readFlag (place.member "optional") (entries.get? "optional")
  let isRepeated ← readFlag (place.member "repeated") (entries.get? "repeated")
  let jsonName ← readJsonName (place.member "json_name") name (entries.get? "json_name")
  let kind ← readText (place.member "kind") (entries.get? "kind")
  return { name, jsonName, kind, isOptional, isRepeated }

/-- The fields of a message. -/
def readFields (place : Place) (d : Option α) : Except (DocumentError T) (List (Field T)) := do
  readItems readField place 0 (← readList place d)

/-- The mark of a method without side effects. -/
def noSideEffects : String := "NO_SIDE_EFFECTS"

/-- A method. -/
def readMethod (place : Place) (d : α) : Except (DocumentError T) (Method T) := do
  let entries ← readObject place d
  let idempotency ←
    readOptionalText (place.member "idempotency_level") (entries.get? "idempotency_level")
  let isStreaming ← readFlag (place.member "server_streaming") (entries.get? "server_streaming")
  let name ← readText (place.member "name") (entries.get? "name")
  let inputType ← readText (place.member "input_type") (entries.get? "input_type")
  let outputType ← readText (place.member "output_type") (entries.get? "output_type")
  let requestFields ←
    readFields (place.member "request_fields") (entries.get? "request_fields")
  let responseFields ←
    readFields (place.member "response_fields") (entries.get? "response_fields")
  return { name, inputType, outputType, isStreaming,
           isIdempotent := idempotency == DocumentText.ofString noSideEffects,
           requestFields, responseFields }

/-- The names that occur more than once, each of them once, in the order of their code points. -/
def duplicates (names : List T) : List T :=
  let numbers (name : T) := (DocumentText.points name).map Text.Point.number
  ((names.filter fun name => 1 < names.count name).eraseDups).mergeSort fun s t =>
    !(numbers t).lex (numbers s) fun m n => m < n

/-- A service; its methods have different names. -/
def readService (place : Place) (d : α) : Except (DocumentError T) (Service T) := do
  let entries ← readObject place d
  let items ← readList (place.member "methods") (entries.get? "methods")
  let methods ← readItems readMethod (place.member "methods") 0 items
  let repeated := duplicates (methods.map Method.name)
  if !repeated.isEmpty then throw (.duplicateMethods place repeated)
  let name ← readText (place.member "name") (entries.get? "name")
  return { name, methods }

/-- A file. -/
def readFile (place : Place) (d : α) : Except (DocumentError T) (File T) := do
  let entries ← readObject place d
  let items ← readList (place.member "services") (entries.get? "services")
  let name ← readText (place.member "name") (entries.get? "name")
  let package ← readOptionalText (place.member "package") (entries.get? "package")
  let services ← readItems readService (place.member "services") 0 items
  return { name, package, services }

/-- The schema of a document. -/
def readSchema (d : α) : Except (DocumentError T) (List (File T)) :=
  match Document.shape d with
  | .map entries =>
    match (Entries.get? entries "files").map Document.shape with
    | some (.list items) => readItems readFile [.member "files"] 0 items
    | _ => .error .noFileList
  | _ => .error .notAnObject

end Parts

end ConnectRpc.Schema
