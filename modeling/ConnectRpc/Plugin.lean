import ConnectRpc.Descriptor.Reading
import ConnectRpc.Descriptor.Resolution
import ConnectRpc.Stub.Units

/-!
# The compiler's plugin

A schema compiler hands a request to the generator and takes a response: the units, or an error and
no units. Every failure of the generation itself is such an error; only octets that are no request
have no response.

* `respond`: the response to a request. The parameter is read first.
* `Response.encode`: the response as octets.
-/

namespace ConnectRpc.Plugin

open Descriptor (Request)
open Stub (SourceUnit)

/-- What a request cannot be met for. -/
inductive Refusal where
  | profile (e : Stub.ProfileError)
  | resolution (e : Descriptor.ResolutionError)
  deriving DecidableEq, Repr

/-- The wording of a refusal. -/
def Refusal.message : Refusal → String
  | .profile e => e.message
  | .resolution e => e.message

/-- The answer to a request. -/
inductive Response where
  | units (generated : List SourceUnit)
  | refused (r : Refusal)
  deriving DecidableEq, Repr

/-- The answer to a request. -/
def respond (r : Request) : Response :=
  match Stub.Profile.ofParameter r.parameter with
  | .error e => .refused (.profile e)
  | .ok p =>
    match Descriptor.schemaOf r.files r.names with
    | .error e => .refused (.resolution e)
    | .ok files => .units (Stub.units files p)

namespace Response

/-- The generator's abilities that a compiler has to know of: it tells declared optional fields from
others. -/
def features : Nat := 1

/-- The octets of a unit. -/
def encodeUnit (u : SourceUnit) : Bytes :=
  Protobuf.textMember 1 u.name ++ Protobuf.textMember 15 u.content

/-- The octets of a response. -/
def encode : Response → Bytes
  | .units generated =>
    Protobuf.numberMember 2 features ++
      generated.flatMap fun u => Protobuf.octetsMember 15 (encodeUnit u)
  | .refused r => Protobuf.textMember 1 r.message ++ Protobuf.numberMember 2 features

end Response

end ConnectRpc.Plugin
