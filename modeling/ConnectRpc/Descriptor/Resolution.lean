import ConnectRpc.Descriptor.Basic
import ConnectRpc.Notice
import ConnectRpc.Number.Numeral
import ConnectRpc.Schema.Basic
import ConnectRpc.Schema.JsonName
import ConnectRpc.Text.Quoted

/-!
# From compiled schemas to schemas

Methods name their messages in full; a schema holds the messages themselves. The messages of all
files, those declared inside others included, stand under their full names in an index, and every
method of a requested file is looked up in it. Methods whose clients stream are left out.

* `indexOf`: the index. Of two messages with one full name the later one counts: files count from
  the first, and the messages of a file as they come off a stack (`entriesOf`).
* `schemaOf`: the schemas of the requested files, or the first name that is missing.
* `schemaNotices`: what there is to say about making them.
-/

namespace ConnectRpc.Descriptor

open Schema (Field Method Service File)

/-! ## The index -/

/-- A message under its full name. -/
structure Entry where
  fullName : String
  /-- The names of the messages around it and its own, joined by underscores. -/
  localName : String
  message : MessageDecl
  /-- The language of its file. -/
  language : String

/-- The full name of what is declared in a scope. -/
def nameIn (scope name : String) : String := scope ++ "." ++ name

/-- The local name of a message inside another, or of one by itself. -/
def localName (outer name : String) : String := if outer = "" then name else outer ++ "_" ++ name

/-- A message that waits for its entry, with the names of what it is declared in. -/
structure Waiting where
  /-- The full name of the package or the message around it. -/
  scope : String
  /-- The local name of the message around it; empty if there is none. -/
  outer : String
  message : MessageDecl

namespace Waiting

/-- The full name of the message. -/
def fullName (w : Waiting) : String := nameIn w.scope w.message.name

/-- The local name of the message. -/
def localName (w : Waiting) : String := Descriptor.localName w.outer w.message.name

/-- The entry of the message. -/
def entry (language : String) (w : Waiting) : Entry :=
  ⟨w.fullName, w.localName, w.message, language⟩

/-- The messages declared inside the message. -/
def inner (w : Waiting) : List Waiting := w.message.nested.map (⟨w.fullName, w.localName, ·⟩)

end Waiting

/-- The number of messages, those inside others included. -/
def messageCount : List MessageDecl → Nat
  | [] => 0
  | ⟨_, _, nested, _⟩ :: rest => messageCount nested + 1 + messageCount rest

theorem messageCount_cons (m : MessageDecl) (rest : List MessageDecl) :
    messageCount (m :: rest) = messageCount m.nested + 1 + messageCount rest := by
  cases m
  rw [messageCount]

theorem messageCount_append (first second : List MessageDecl) :
    messageCount (first ++ second) = messageCount first + messageCount second := by
  induction first with
  | nil => simp [messageCount]
  | cons m rest ih => simp only [List.cons_append, messageCount_cons, ih, Nat.add_assoc]

theorem messageCount_reverse (messages : List MessageDecl) :
    messageCount messages.reverse = messageCount messages := by
  induction messages with
  | nil => rfl
  | cons m rest ih =>
    simp only [List.reverse_cons, messageCount_append, messageCount_cons, messageCount, ih]
    omega

/-- The number of messages that have no entry yet. -/
def Waiting.countOn (stack : List Waiting) : Nat := messageCount (stack.map (·.message))

/-- A message on a stack gives way to those inside it. -/
theorem Waiting.countOn_lt (w : Waiting) (rest : List Waiting) :
    countOn (w.inner.reverse ++ rest) < countOn (w :: rest) := by
  simp only [countOn, inner, List.map_append, List.map_reverse, List.map_map, Function.comp_def,
    List.map_id', List.map_cons, messageCount_append, messageCount_reverse, messageCount_cons]
  omega

/-- The entries of the messages on a stack, its top first. When a message has its entry, those
inside it come on top of the stack, the last one topmost. -/
def entriesOf (language : String) : List Waiting → List Entry
  | [] => []
  | w :: rest => w.entry language :: entriesOf language (w.inner.reverse ++ rest)
  termination_by stack => Waiting.countOn stack
  decreasing_by exact w.countOn_lt rest

/-- The scope that a package opens. -/
def scopeOf (package : String) : String := if package = "" then "" else "." ++ package

/-- The language of files that name none. -/
def oldestLanguage : String := "proto2"

/-- The language in which a file is written. -/
def FileDecl.writtenIn (file : FileDecl) : String :=
  if file.language = "" then oldestLanguage else file.language

/-- The messages of a file that are declared in no other one. -/
def FileDecl.outermost (file : FileDecl) : List Waiting :=
  file.messages.map (⟨scopeOf file.package, "", ·⟩)

/-- The entries of a file. -/
def FileDecl.entries (file : FileDecl) : List Entry :=
  entriesOf file.writtenIn file.outermost.reverse

/-- The entries of files. -/
def indexOf (files : List FileDecl) : List Entry := files.flatMap FileDecl.entries

/-- The last entry under a full name. -/
def find? (index : List Entry) (fullName : String) : Option Entry :=
  index.reverse.find? (·.fullName == fullName)

/-! ## Schemas -/

/-- What is missing. -/
inductive ResolutionError where
  | missingFile (name : String)
  | unknownMessage (typeName : String)
  deriving DecidableEq, Repr

/-- The wording of an error. -/
def ResolutionError.message : ResolutionError → String
  | .missingFile name =>
    "File to generate " ++ Text.quote name ++ " is missing from the descriptors"
  | .unknownMessage typeName => "Unknown message type " ++ Text.quote typeName

/-- The field holds entries of a map, which travel as one object. -/
def holdsMap (index : List Entry) (f : FieldDecl) : Bool :=
  f.type = some .message && ((find? index f.typeName).map (·.message.isMapEntry)).getD false

/-- A field of a file in a language. Without a type it is a number, and without a label it may be
left out. Fields of the oldest language are optional unless they are declared otherwise. -/
def fieldOf (index : List Entry) (language : String) (f : FieldDecl) : Field where
  name := f.name
  jsonName := if f.jsonName = "" then Schema.jsonName f.name else f.jsonName
  kind := (f.type.getD .double).word
  isOptional := f.isDeclaredOptional ||
    (language = oldestLanguage && f.label.getD .optional = .optional)
  isRepeated := f.label = some .repeated && !holdsMap index f

/-- The fields of a message. -/
def fieldsOf (index : List Entry) (e : Entry) : List Field :=
  e.message.fields.map (fieldOf index e.language)

/-- The message of a full name. -/
def resolve (index : List Entry) (typeName : String) : Except ResolutionError Entry :=
  match find? index typeName with
  | some e => .ok e
  | none => .error (.unknownMessage typeName)

/-- A method; the request is looked up first. -/
def methodOf (index : List Entry) (m : MethodDecl) : Except ResolutionError Method := do
  let request ← resolve index m.inputType
  let response ← resolve index m.outputType
  return {
    name := m.name
    inputType := request.localName
    outputType := response.localName
    isStreaming := m.serverStreams
    isIdempotent := m.idempotency = some .noSideEffects
    requestFields := fieldsOf index request
    responseFields := fieldsOf index response }

/-- The methods of a service that stay. -/
def ServiceDecl.kept (s : ServiceDecl) : List MethodDecl := s.methods.filter (!·.clientStreams)

/-- A service. -/
def serviceOf (index : List Entry) (s : ServiceDecl) : Except ResolutionError Service :=
  (s.kept.mapM (methodOf index)).map fun methods => ⟨s.name, methods⟩

/-- A file. -/
def fileOf (index : List Entry) (f : FileDecl) : Except ResolutionError File :=
  (f.services.mapM (serviceOf index)).map fun services => ⟨f.name, f.package, services⟩

/-- The last file of a name. -/
def fileNamed (files : List FileDecl) (name : String) : Except ResolutionError FileDecl :=
  match files.reverse.find? (·.name == name) with
  | some f => .ok f
  | none => .error (.missingFile name)

/-- The schemas of the files of given names. -/
def schemaOf (files : List FileDecl) (names : List String) : Except ResolutionError (List File) :=
  names.mapM fun name => (fileNamed files name).bind (fileOf (indexOf files))

/-! ## Notices -/

/-- The items up to the first one that fails, that one included. -/
def throughFailure {α β ε : Type} (f : α → Except ε β) : List α → List α
  | [] => []
  | a :: rest => if (f a).isOk then a :: throughFailure f rest else [a]

/-- The part of the program that speaks. -/
def noticeSource : String := "connectgen.descriptor"

/-- The notices about a service: one for each method that is left out, until a method fails. -/
def serviceNotices (index : List Entry) (s : ServiceDecl) : List Notice :=
  ((throughFailure (fun m => if m.clientStreams then .ok none else (methodOf index m).map some)
    s.methods).filter (·.clientStreams)).map fun m =>
      ⟨.warning, noticeSource,
        "Skipping " ++ s.name ++ "." ++ m.name ++ ": client streaming is not supported"⟩

/-- The notices about a file. -/
def fileNotices (index : List Entry) (f : FileDecl) : List Notice :=
  (throughFailure (serviceOf index) f.services).flatMap (serviceNotices index) ++
    match fileOf index f with
    | .ok file =>
      [⟨.debug, noticeSource,
        "Loaded " ++ f.name ++ " with " ++ Number.natText file.services.length ++ " services"⟩]
    | .error _ => []

/-- The notices about the files of given names. -/
def schemaNotices (files : List FileDecl) (names : List String) : List Notice :=
  let index := indexOf files
  (throughFailure (fun name => (fileNamed files name).bind (fileOf index)) names).flatMap
    fun name =>
      match fileNamed files name with
      | .ok f => fileNotices index f
      | .error _ => []

end ConnectRpc.Descriptor
