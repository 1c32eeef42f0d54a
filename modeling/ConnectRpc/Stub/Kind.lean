import ConnectRpc.Schema.Basic

/-!
# Types of generated code

The kinds of a schema fall into six categories, and each category has one type hint and one default
in the generated code. A kind that is not known is dynamic, so that no kind stops a generation.

* `Category.ofKind`: the category of a kind.
* `fieldHint`: the type hint of a field in its message's shape.
-/

namespace ConnectRpc.Stub

/-- A category of kinds. -/
inductive Category where
  | text
  | integer
  | float
  | boolean
  | map
  | dynamic
  deriving DecidableEq, Repr

namespace Category

/-- The type hint of a category. -/
def hint : Category → String
  | .text => "str"
  | .integer => "int"
  | .float => "float"
  | .boolean => "bool"
  | .map => "dict[str, Any]"
  | .dynamic => "Any"

/-- The literal of a category's default. -/
def default : Category → String
  | .text => "\"\""
  | .integer => "0"
  | .float => "0.0"
  | .boolean => "False"
  | .map => "\x7b\x7d"
  | .dynamic => "None"

/-- The kinds of whole numbers. -/
def integerKinds : List String :=
  ["int32", "int64", "uint32", "uint64", "sint32", "sint64", "fixed32", "fixed64", "sfixed32",
   "sfixed64"]

/-- The category of a kind. -/
def ofKind (kind : String) : Category :=
  if kind = "string" then .text
  else if kind ∈ integerKinds then .integer
  else if kind = "float" ∨ kind = "double" then .float
  else if kind = "bool" then .boolean
  else if kind = "message" then .map
  else .dynamic

end Category

/-- The category of a field's kind. -/
def categoryOf (f : Schema.Field) : Category := .ofKind f.kind

/-- The type hint of a field in its message's shape. -/
def fieldHint (f : Schema.Field) : String :=
  if f.isRepeated then "list[" ++ (categoryOf f).hint ++ "]" else (categoryOf f).hint

end ConnectRpc.Stub
