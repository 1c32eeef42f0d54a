import ConnectRpc.Descriptor.Basic
import ConnectRpc.Protobuf.Record

/-!
# Reading compiled schemas

Compiled schemas come as messages. Each function here makes a declaration of the members of its
message; `readFileSet` and `readRequest` start from octets.
-/

namespace ConnectRpc.Descriptor

open Protobuf (Record)

/-- The constant of a number in a list whose first number is one. -/
def fromOne {α : Type} (constants : List α) (n : Nat) : Option α :=
  if n = 0 then none else constants[n - 1]?

/-- A field. -/
def FieldDecl.ofRecord (r : Record) : FieldDecl where
  name := r.text 1
  label := r.constant? 4 (fromOne Label.all)
  type := r.constant? 5 (fromOne (FieldType.words.map (·.1)))
  typeName := r.text 6
  jsonName := r.text 10
  isDeclaredOptional := r.flag 17

/-- A message, with the messages inside it as deep as `depth`. -/
def MessageDecl.ofRecord : Nat → Record → MessageDecl
  | 0, r => ⟨r.text 1, (r.records 2).map .ofRecord, [], (r.record 7).flag 7⟩
  | depth + 1, r =>
    ⟨r.text 1, (r.records 2).map .ofRecord, (r.records 3).map (ofRecord depth),
      (r.record 7).flag 7⟩

/-- A method. -/
def MethodDecl.ofRecord (r : Record) : MethodDecl where
  name := r.text 1
  inputType := r.text 2
  outputType := r.text 3
  clientStreams := r.flag 5
  serverStreams := r.flag 6
  idempotency := (r.record 4).constant? 34 (Idempotency.all[·]?)

/-- A service. -/
def ServiceDecl.ofRecord (r : Record) : ServiceDecl where
  name := r.text 1
  methods := (r.records 2).map .ofRecord

/-- A file. -/
def FileDecl.ofRecord (r : Record) : FileDecl where
  name := r.text 1
  package := r.text 2
  language := r.text 12
  messages := (r.records 4).map (.ofRecord Protobuf.deepest)
  services := (r.records 6).map .ofRecord

/-- The files of a file set. -/
def readFileSet (bytes : Bytes) : Option (List FileDecl) :=
  (Protobuf.decode .fileSet bytes).map fun r => (r.records 1).map .ofRecord

/-- What a schema compiler asks a generator for. -/
structure Request where
  /-- The names of the files to generate from. -/
  names : List String
  /-- The settings of the generation. -/
  parameter : String
  /-- The files, with all that they depend on. -/
  files : List FileDecl

/-- A request. -/
def readRequest (bytes : Bytes) : Option Request :=
  (Protobuf.decode .request bytes).map fun r =>
    ⟨r.texts 1, r.text 2, (r.records 15).map .ofRecord⟩

end ConnectRpc.Descriptor
