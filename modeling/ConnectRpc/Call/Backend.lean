import ConnectRpc.Value.Display

/-!
# Backends

A transport is made of an HTTP client. The clients differ in the name under which they take the body
of a request; they may give the headers of an answer any form, of which a transport makes texts.

* `Backend.arguments`: what a client is given, by name.
* `displayHeaders`: the headers of an answer as texts. Of headers that become one, the last counts,
  in the place of the first.
-/

namespace ConnectRpc.Call

/-- The HTTP client behind a transport. -/
inductive Backend where
  /-- The client takes a body as its `content`. -/
  | takesContent
  /-- The client takes a body as its `data`. -/
  | takesData
  deriving DecidableEq, Repr

/-- The name under which a client takes a body. -/
def Backend.bodyName : Backend → String
  | .takesContent => "content"
  | .takesData => "data"

/-- What a transport is asked to send. -/
structure Outgoing where
  method : String
  url : String
  headers : Value
  body : Option Bytes
  timeout : Value

/-- What a client is given, by name: everything the transport was asked for, unchanged. -/
def Backend.arguments (b : Backend) (o : Outgoing) : List (String × Value) :=
  [("method", .text o.method), ("url", .text o.url), ("headers", o.headers),
   (b.bodyName, (o.body.map Value.bytes).getD .null), ("timeout", o.timeout)]

/-- Sets a header: in its place if it is there, at the end if not. -/
def putHeader (headers : List (String × String)) (header : String × String) :
    List (String × String) :=
  if headers.any (·.1 == header.1) then
    headers.map fun h => if h.1 == header.1 then header else h
  else headers ++ [header]

/-- Headers as texts. -/
def displayHeaders (headers : List (Value × Value)) : List (String × String) :=
  (headers.map fun (name, value) => (name.display, value.display)).foldl putHeader []

end ConnectRpc.Call
