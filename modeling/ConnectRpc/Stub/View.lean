import ConnectRpc.Stub.Kind
import ConnectRpc.Stub.Naming

/-!
# Stubs

A method becomes a stub: a signal, and a function whose parameters are the fields of the request.
This module says what each line of a stub will name.

* `paramDeclaration`, `params`: the signature. A field that is optional or repeated has a default;
  the star that ends the positional parameters stands before the first defaulted field if a field
  without a default follows it, and after all fields otherwise.
* `FieldView.of`: how a parameter gets into the request. A parameter with a default is left out when
  it holds that default.
* `claimNames`: names of one class are kept apart by underscores, signals before stubs.
-/

namespace ConnectRpc.Stub

open Schema

/-- How a method travels. -/
inductive Travel where
  | unaryIdempotent
  | unaryMutating
  | streaming
  deriving DecidableEq, Repr

namespace Travel

/-- A streaming method streams whether or not it has side effects. -/
def of (m : Method) : Travel :=
  if m.isStreaming then .streaming
  else if m.isIdempotent then .unaryIdempotent
  else .unaryMutating

/-- The word for a way of travelling. -/
def text : Travel → String
  | .unaryIdempotent => "unary_idempotent"
  | .unaryMutating => "unary_mutating"
  | .streaming => "streaming"

/-- The runtime's function that a stub calls. -/
def entryPoint : Travel → String
  | .unaryIdempotent => "call_unary_get"
  | .unaryMutating => "call_unary_post"
  | .streaming => "call_streaming"

/-- The remark above a stub. -/
def comment : Travel → String
  | .unaryIdempotent => "Unary RPC (idempotent - supports GET)"
  | .unaryMutating => "Unary RPC"
  | .streaming => "Streaming RPC"

/-- What follows a method's name in its signal's name. -/
def signalSuffix : Travel → String
  | .streaming => "_event"
  | _ => "_response"

end Travel

/-! ## Parameters -/

/-- The parameter of the field has a default. -/
def hasDefault (f : Field) : Bool := f.isOptional || f.isRepeated

/-- The declaration of a field's parameter. -/
def paramDeclaration (f : Field) : String :=
  let name := identifier f.name
  let category := categoryOf f
  if f.isRepeated then name ++ ": Sequence[" ++ category.hint ++ "] = ()"
  else if !f.isOptional then name ++ ": " ++ category.hint
  else if category = .map then name ++ ": " ++ category.hint ++ " | None = None"
  else name ++ ": " ++ category.hint ++ " = " ++ category.default

/-- The parameters that every stub has. -/
def callParams : List String :=
  ["timeout: float | None = None", "cancel: CancelToken | None = None"]

/-- The declarations of fields with the star among them; `starred` when it already stands further
left. -/
def fieldParams (starred : Bool) : List Field → List String
  | [] => if starred then [] else ["*"]
  | f :: rest =>
    if !starred && hasDefault f && rest.any (!hasDefault ·) then
      "*" :: paramDeclaration f :: fieldParams true rest
    else paramDeclaration f :: fieldParams starred rest

/-- The parameters of a stub. -/
def params (fields : List Field) : List String := fieldParams false fields ++ callParams

/-- How a parameter gets into the request. -/
structure FieldView where
  param : String
  jsonName : String
  /-- The expression that is sent. -/
  value : String
  /-- The condition under which it is sent; empty if it always is. -/
  omitCondition : String
  deriving DecidableEq, Repr

/-- How the parameter of a field gets into the request. -/
def FieldView.of (f : Field) : FieldView :=
  let param := identifier f.name
  if f.isRepeated then ⟨param, f.jsonName, "list(" ++ param ++ ")", param⟩
  else if !f.isOptional then ⟨param, f.jsonName, param, ""⟩
  else
    let condition :=
      match categoryOf f with
      | .map => param
      | .dynamic => param ++ " is not None"
      | category => param ++ " != " ++ category.default
    ⟨param, f.jsonName, param, condition⟩

/-! ## Methods -/

/-- What a stub's lines name. -/
structure MethodView where
  name : String
  stubName : String
  signalName : String
  comment : String
  entryPoint : String
  inputType : String
  params : List String
  fields : List FieldView
  deriving DecidableEq, Repr

/-- The stub of a method, before names are kept apart. -/
def MethodView.of (m : Method) : MethodView where
  name := m.name
  stubName := identifier m.name
  signalName := snakeCase m.name ++ (Travel.of m).signalSuffix
  comment := (Travel.of m).comment
  entryPoint := (Travel.of m).entryPoint
  inputType := typeName m.inputType
  params := Stub.params m.requestFields
  fields := m.requestFields.map FieldView.of

/-- The name with a number of underscores after it. -/
def underscored (name : String) (n : Nat) : String :=
  name ++ String.ofList (List.replicate n '_')

/-- The name with the fewest underscores after it that is not taken. There are more candidates than
taken names. -/
def claim (taken : List String) (name : String) : String :=
  (((List.range (taken.length + 1)).map (underscored name)).find? (· ∉ taken)).getD name

/-- Claims names one after the other, each avoiding those before it. -/
def claimAll (taken : List String) : List String → List String
  | [] => []
  | name :: rest => claim taken name :: claimAll (claim taken name :: taken) rest

/-- The stubs of one class with their names kept apart: all signals claim theirs first. -/
def claimNames (views : List MethodView) : List MethodView :=
  let signals := claimAll reservedNames (views.map MethodView.signalName)
  let stubs := claimAll (signals.reverse ++ reservedNames) (views.map MethodView.stubName)
  (views.zip (signals.zip stubs)).map fun (view, signalName, stubName) =>
    { view with signalName, stubName }

end ConnectRpc.Stub
