import ConnectRpc.Json.Writer
import ConnectRpc.Text.Blank
import ConnectRpc.Text.Utf8
import ConnectRpc.Value.Display

/-!
# Failures of calls

Everything that can go wrong with a call and is reported to its caller as a value: in the result,
and on the client's error channel. Each constructor is a cause; `Failure.message` is the one place
that words them.
-/

namespace ConnectRpc

/-- What a call was about to do when its base URL was refused. -/
inductive Attempt where
  | get
  | post
  | stream
  deriving DecidableEq, Repr

/-- The wording of an attempt. -/
def Attempt.text : Attempt → String
  | .get => "GET request"
  | .post => "POST request"
  | .stream => "start stream"

/-- Why a call failed. -/
inductive Failure where
  /-- The base URL has no HTTP scheme or no host. -/
  | invalidBaseUrl (attempt : Attempt) (url : String)
  /-- The transport could not make a request. -/
  | requestNotMade (method reason : String)
  /-- The transport could not open a stream. -/
  | streamNotStarted (reason : String)
  /-- The transport failed between two chunks of a stream. -/
  | streamInterrupted (reason : String)
  /-- The answer's status is not a success. -/
  | status (streaming : Bool) (status : Int) (code detail : Option (List Text.Point))
  /-- The body of a successful answer is no JSON text. -/
  | undecodableResponse (body : Bytes)
  /-- The stream ended inside a frame. -/
  | incompleteMessage (expected received : Nat)
  /-- A frame's payload is no JSON text. -/
  | undecodableMessage (payload : Bytes)
  /-- The stream's trailer carries an error. -/
  | streamError (code detail : Option (List Text.Point)) (metadata : List (Value × Value))
  /-- The request has no JSON text. -/
  | unencodableRequest (reason : Json.EncodeError)
  /-- A frame is compressed. -/
  | compressedMessage (payload : Bytes)
  /-- The call was not done in time. -/
  | deadlineExceeded (seconds : Value)
  /-- The call's token was cancelled before anything was sent. -/
  | cancelledUnsent
  /-- The call's token was cancelled while the call waited. -/
  | cancelled
  deriving Repr

/-- A text that is there and not empty, half a character in it by its escape, or a stand-in. -/
def textOr (standIn : String) : Option (List Text.Point) → String
  | some points => if points.isEmpty then standIn else Text.shown points
  | none => standIn

/-- The wording of a trailer's error: code and detail, without colons and spaces at the end. -/
def streamErrorText (code detail : Option (List Text.Point)) : String :=
  String.ofList (Text.dropTrailing (fun c => c == ':' || c == ' ')
    ("Stream ended with error: " ++ textOr "unknown" code ++ ": " ++ textOr "" detail).toList)

/-- The wording of a failure. -/
def Failure.message : Failure → String
  | .invalidBaseUrl attempt url =>
    "Failed to " ++ attempt.text ++ ": invalid base URL " ++ Text.quote url
  | .requestNotMade method reason => "Failed to make " ++ method ++ " request: " ++ reason
  | .streamNotStarted reason => "Failed to start stream: " ++ reason
  | .streamInterrupted reason => "Stream interrupted: " ++ reason
  | .status false n _ _ => "Request failed with code: " ++ Number.intText n
  | .status true n _ _ => "Stream request failed with code: " ++ Number.intText n
  | .undecodableResponse _ => "Failed to parse response JSON"
  | .incompleteMessage expected received =>
    "Incomplete ConnectRPC message: expected " ++ Number.natText expected ++ " bytes, got " ++
      Number.natText received
  | .undecodableMessage payload =>
    "Failed to parse ConnectRPC message JSON: " ++ Utf8.decodeLossy payload
  | .streamError code detail _ => streamErrorText code detail
  | .unencodableRequest reason => "Failed to encode request: " ++ reason.message
  | .compressedMessage _ => "Compressed ConnectRPC messages are not supported"
  | .deadlineExceeded seconds =>
    "Call exceeded its deadline of " ++ seconds.display ++ " seconds"
  | .cancelledUnsent => "Call cancelled before it was sent"
  | .cancelled => "Call cancelled"

end ConnectRpc
