/-!
# Schemas

What a stub is generated from: files of services, services of methods, methods with the fields of
their two messages. Everything here is resolved; names are any texts. Stubs are made of schemas
whose names are texts of characters; a document can give others.

* `File.texts?`: a file with each of its texts replaced.
-/

namespace ConnectRpc.Schema

/-- A field of a message. -/
structure Field (T : Type := String) where
  name : T
  /-- The key under which the field travels. -/
  jsonName : T
  kind : T
  isOptional : Bool
  isRepeated : Bool
  deriving DecidableEq, Repr

/-- A method with its messages. -/
structure Method (T : Type := String) where
  name : T
  inputType : T
  outputType : T
  /-- The server answers with a stream. -/
  isStreaming : Bool
  /-- The method has no side effects. -/
  isIdempotent : Bool
  requestFields : List (Field T)
  responseFields : List (Field T)
  deriving DecidableEq, Repr

/-- A service. -/
structure Service (T : Type := String) where
  name : T
  methods : List (Method T)
  deriving DecidableEq, Repr

/-- A schema file. -/
structure File (T : Type := String) where
  /-- The path of the file relative to the schema's root. -/
  name : T
  /-- The dotted package, possibly empty. -/
  package : T
  services : List (Service T)
  deriving DecidableEq, Repr

/-- The name under which calls reach a service. -/
def Service.path (package : String) (s : Service) : String :=
  if package = "" then s.name else package ++ "." ++ s.name

/-! ## Other texts -/

section

variable {T U : Type} (f? : T → Option U)

/-- The field with its texts replaced, if each of them can be. -/
def Field.texts? (f : Field T) : Option (Field U) := do
  return { f with name := ← f? f.name, jsonName := ← f? f.jsonName, kind := ← f? f.kind }

/-- The method with its texts replaced, if each of them can be. -/
def Method.texts? (m : Method T) : Option (Method U) := do
  return { m with
    name := ← f? m.name, inputType := ← f? m.inputType, outputType := ← f? m.outputType,
    requestFields := ← m.requestFields.mapM (Field.texts? f?),
    responseFields := ← m.responseFields.mapM (Field.texts? f?) }

/-- The service with its texts replaced, if each of them can be. -/
def Service.texts? (s : Service T) : Option (Service U) := do
  return { name := ← f? s.name, methods := ← s.methods.mapM (Method.texts? f?) }

/-- The file with its texts replaced, if each of them can be. -/
def File.texts? (file : File T) : Option (File U) := do
  return {
    name := ← f? file.name, package := ← f? file.package,
    services := ← file.services.mapM (Service.texts? f?) }

end

end ConnectRpc.Schema
