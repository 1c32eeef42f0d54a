/-!
# Compiled schemas

What a schema compiler hands on: files of messages and services, in which types are named by their
full names with a point in front. `Descriptor.Resolution` makes schemas of them.
-/

namespace ConnectRpc.Descriptor

/-- How often a field occurs. -/
inductive Label where
  | optional
  | required
  | repeated
  deriving DecidableEq, Repr

/-- The labels in the order of their numbers, which start with one. -/
def Label.all : List Label := [.optional, .required, .repeated]

/-- The type of a field. -/
inductive FieldType where
  | double
  | float
  | int64
  | uint64
  | int32
  | fixed64
  | fixed32
  | bool
  | string
  | group
  | message
  | bytes
  | uint32
  | enum
  | sfixed32
  | sfixed64
  | sint32
  | sint64
  deriving DecidableEq, Repr

namespace FieldType

/-- The types in the order of their numbers, which start with one, with the words for them. -/
def words : List (FieldType × String) :=
  [(.double, "double"), (.float, "float"), (.int64, "int64"), (.uint64, "uint64"),
   (.int32, "int32"), (.fixed64, "fixed64"), (.fixed32, "fixed32"), (.bool, "bool"),
   (.string, "string"), (.group, "group"), (.message, "message"), (.bytes, "bytes"),
   (.uint32, "uint32"), (.enum, "enum"), (.sfixed32, "sfixed32"), (.sfixed64, "sfixed64"),
   (.sint32, "sint32"), (.sint64, "sint64")]

/-- The word for a type. -/
def word (type : FieldType) : String := (words.lookup type).getD ""

end FieldType

/-- The effects of a method that its declaration promises. -/
inductive Idempotency where
  | unknown
  | noSideEffects
  | idempotent
  deriving DecidableEq, Repr

/-- The promises in the order of their numbers, which start with zero. -/
def Idempotency.all : List Idempotency := [.unknown, .noSideEffects, .idempotent]

/-- A field of a message. -/
structure FieldDecl where
  name : String
  label : Option Label
  type : Option FieldType
  /-- The full name of the type of a field that holds messages or constants. -/
  typeName : String
  /-- The key of the field; empty if none is given. -/
  jsonName : String
  /-- The field was declared optional although fields of its file always are. -/
  isDeclaredOptional : Bool
  deriving DecidableEq, Repr

/-- A message, with the messages declared inside it. -/
structure MessageDecl where
  name : String
  fields : List FieldDecl
  nested : List MessageDecl
  /-- The message is an entry of a map. -/
  isMapEntry : Bool
  deriving Inhabited

/-- A method. -/
structure MethodDecl where
  name : String
  inputType : String
  outputType : String
  clientStreams : Bool
  serverStreams : Bool
  idempotency : Option Idempotency
  deriving DecidableEq, Repr

/-- A service. -/
structure ServiceDecl where
  name : String
  methods : List MethodDecl
  deriving DecidableEq, Repr

/-- A file. -/
structure FileDecl where
  name : String
  package : String
  /-- The language of the file; empty for the oldest one. -/
  language : String
  messages : List MessageDecl
  services : List ServiceDecl

end ConnectRpc.Descriptor
