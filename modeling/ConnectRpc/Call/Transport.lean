import ConnectRpc.Bytes

/-!
# Transports

A call meets the network in two ways: it makes a request and gets an answer, or it opens a stream
and reads chunks. What the other side does is a script, fixed before the call: at each point where
the call waits, the script may cancel the call's token, may fail, and may never go on.

* `Action`: what happens at one such point.
* `Reply`: the script of one call. A stream's chunks carry an action each.
* `Request`: what the call sends.
-/

namespace ConnectRpc.Call

/-- What happens where a call waits, in this order. -/
structure Action where
  /-- The call's token is cancelled. -/
  cancels : Bool
  /-- The transport fails. -/
  failure : Option String
  /-- The call waits for ever. -/
  hangs : Bool
  deriving DecidableEq, Repr

/-- Nothing happens. -/
def Action.none : Action := ⟨false, Option.none, false⟩

/-- One step of a stream's body: an action, then octets if there are any. -/
structure Chunk where
  action : Action
  data : Option Bytes
  deriving DecidableEq, Repr

/-- The script of one call. -/
structure Reply where
  action : Action
  status : Int
  /-- The answer's body, for a request. -/
  body : Bytes
  /-- The answer's body, for a stream. -/
  chunks : List Chunk
  deriving DecidableEq, Repr

/-- The two ways of sending. -/
inductive Channel where
  | request
  | stream
  deriving DecidableEq, Repr

/-- What a call sends. -/
structure Request where
  via : Channel
  method : String
  url : String
  headers : List (String × String)
  body : Option Bytes
  deriving DecidableEq, Repr

end ConnectRpc.Call
