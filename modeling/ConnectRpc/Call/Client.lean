import ConnectRpc.Call.BaseUrl
import ConnectRpc.Call.Percent
import ConnectRpc.Call.Signal
import ConnectRpc.Call.Transport
import ConnectRpc.Wire.Stream

/-!
# Calls

A client makes calls of three shapes: a message in the query of a GET request, a message as the body
of a POST request, and a message as the one frame of a streaming request. Whatever goes wrong on the
way is recorded in the call's result and emitted on the client's error signal; every message
received is recorded and emitted on the call's own signal.

A call is a function of the client, the call and the transport's script. Its trace holds, in order,
what was sent, what was emitted, which slots were called with what, and when a stream was closed.

* `Run`: a stretch of a call. It may stop early: because a slot failed, or because the transport
  never goes on.
* `Client.perform`: a whole call.
-/

namespace ConnectRpc

open Wire

namespace Call

/-! ## Clients, calls and results -/

/-- Settings of a client. -/
structure Config where
  baseUrl : String
  /-- The deadline in seconds of calls that have none of their own. -/
  timeout : Option Value
  /-- Streams are decoded chunk by chunk if the transport can open them. -/
  incremental : Bool
  deriving Repr

/-- The base URL of a client that names none. -/
def defaultBaseUrl : String := "http://localhost:8080"

/-- The settings that a client has of itself. -/
def Config.default (baseUrl : String) : Config := ⟨baseUrl, none, true⟩

/-- The two signals a call emits on. -/
inductive Target where
  | messages
  | failures
  deriving DecidableEq, Repr

/-- The slots of the two signals. -/
structure Listeners (σ : Type) where
  messages : Signal σ
  failures : Signal σ
  deriving Repr

/-- The signal of a target. -/
def Listeners.signal {σ : Type} (l : Listeners σ) : Target → Signal σ
  | .messages => l.messages
  | .failures => l.failures

/-- The listeners with other slots on one signal. -/
def Listeners.withSlots {σ : Type} (l : Listeners σ) (target : Target) (slots : List σ) :
    Listeners σ :=
  match target with
  | .messages => { l with messages := { l.messages with slots } }
  | .failures => { l with failures := { l.failures with slots } }

/-- One reaction of a slot, on the slots of one of the signals. -/
def Listeners.apply {σ : Type} [DecidableEq σ] (l : Listeners σ) (reaction : Target × Reaction σ) :
    Listeners σ × Option SlotFault :=
  match reaction.2.apply (l.signal reaction.1).slots with
  | (slots, fault) => (l.withSlots reaction.1 slots, fault)

/-- A call of a slot: on which signal, and with what. -/
structure SlotCall (σ : Type) where
  target : Target
  slot : σ
  item : StreamItem
  deriving Repr

/-- What slots do to the signals when they are called, given the calls before, earliest first. -/
abbrev Behaviour (σ : Type) := List (SlotCall σ) → SlotCall σ → List (Target × Reaction σ)

/-- A client. -/
structure Client (σ : Type) where
  config : Config
  listeners : Listeners σ
  /-- The transport can open streams. -/
  streams : Bool
  react : Behaviour σ

/-- The three shapes of call. -/
inductive Shape where
  | get
  | post
  | stream
  deriving DecidableEq, Repr

/-- A token through which the caller may cancel. -/
inductive Token where
  | absent
  | fresh
  | cancelled
  deriving DecidableEq, Repr

end Call

/-- A call. -/
structure Call where
  shape : Call.Shape
  service : String
  method : String
  data : Value
  /-- Messages are emitted on the client's message signal. -/
  signalled : Bool
  timeout : Option Value
  token : Call.Token
  deriving Repr

namespace Call

/-- Something that a call did. -/
inductive Event (σ : Type) where
  | sent (request : Request)
  | emitted (target : Target) (item : StreamItem)
  | called (call : SlotCall σ)
  | streamClosed
  deriving Repr

/-- The call of a slot that an event is. -/
def Event.slotCall? {σ : Type} : Event σ → Option (SlotCall σ)
  | .called call => some call
  | _ => none

/-- What a call has come to so far. -/
structure Progress (σ : Type) where
  listeners : Listeners σ
  messages : List Value
  failures : List Failure
  trace : List (Event σ)
  /-- The call's token has been cancelled. -/
  tokenCancelled : Bool
  deriving Repr

/-- An exception that escapes a call. -/
inductive Fault where
  /-- A slot failed. -/
  | slot (fault : SlotFault)
  /-- The base URL's host is malformed. -/
  | host (fault : HostFault)
  /-- The timeout is no number. -/
  | timeoutForm
  /-- The timeout is a whole number that no clock can count to. -/
  | timeoutRange
  /-- The written message has half a character in it, which has no octets. -/
  | halfCharacter
  /-- The written message is too long for the header of a frame to announce. -/
  | messageLength
  deriving DecidableEq, Repr

/-- What is wrong with a timeout. Clocks count in numbers of the format binary64, and a whole number
beyond their range has none. -/
def timeoutFault? : Value → Option Fault
  | .int i =>
    match Number.Binary64.ofRatio (i < 0) i.natAbs 1 with
    | .infinite _ => some .timeoutRange
    | _ => none
  | seconds => if seconds.isNumber then none else some .timeoutForm

theorem timeoutFault?_eq_some {seconds : Value} {fault : Fault}
    (h : timeoutFault? seconds = some fault) :
    (seconds.isNumber = false ∧ fault = .timeoutForm) ∨
      (seconds.isNumber = true ∧ fault = .timeoutRange) := by
  unfold timeoutFault? at h
  split at h
  · next i =>
    split at h
    · injection h with h
      exact .inr ⟨rfl, h.symm⟩
    · cases h
  · cases hnumber : seconds.isNumber with
    | true => simp [hnumber] at h
    | false =>
      simp only [hnumber, Bool.false_eq_true, if_false, Option.some.injEq] at h
      exact .inl ⟨rfl, h.symm⟩

/-- Why a stretch of a call stops early. -/
inductive Stop where
  | fault (fault : Fault)
  | hang
  deriving DecidableEq, Repr

/-- A stretch of a call. -/
abbrev Run (σ : Type) (α : Type) := ExceptT Stop (StateM (Progress σ)) α

section

variable {σ : Type} [DecidableEq σ]

/-! ## Emitting and recording -/

/-- Calls the slots that a signal has now with an item. -/
def Listeners.emit (react : Behaviour σ) (before : List (SlotCall σ)) (target : Target)
    (item : StreamItem) (l : Listeners σ) : Emission (Listeners σ) σ :=
  callSlots Listeners.apply
    (fun called slot => react (before ++ called.map (⟨target, ·, item⟩)) ⟨target, slot, item⟩)
    l (l.signal target).slots

/-- Emits an item on a signal. -/
def emit (react : Behaviour σ) (target : Target) (item : StreamItem) : Run σ Unit := do
  let p ← get
  let emission := p.listeners.emit react (p.trace.filterMap Event.slotCall?) target item
  set { p with
    listeners := emission.state
    trace := p.trace ++ Event.emitted target item ::
      emission.called.map fun slot => Event.called ⟨target, slot, item⟩ }
  match emission.fault with
  | none => return ()
  | some fault => throw (.fault (.slot fault))

/-- Records a failure and emits it. -/
def report (react : Behaviour σ) (failure : Failure) : Run σ Unit := do
  modify fun p => { p with failures := p.failures ++ [failure] }
  emit react .failures (.failure failure)

/-- Records a message and emits it if the call has a signal. -/
def receive (react : Behaviour σ) (signalled : Bool) (message : Value) :
    Run σ Unit := do
  modify fun p => { p with messages := p.messages ++ [message] }
  if signalled then emit react .messages (.event message)

/-- Delivers the items of a stream in order. -/
def deliver (react : Behaviour σ) (signalled : Bool) : List StreamItem → Run σ Unit
  | [] => return ()
  | .event message :: rest => do
    receive react signalled message
    deliver react signalled rest
  | .failure failure :: rest => do
    report react failure
    deliver react signalled rest

/-- Adds an event to the trace. -/
def note (event : Event σ) : Run σ Unit :=
  modify fun p => { p with trace := p.trace ++ [event] }

/-- Lets the script act; the result is the transport's failure, if it fails. -/
def act (token : Token) (action : Action) : Run σ (Option String) := do
  if action.cancels && token != .absent then
    modify fun p => { p with tokenCancelled := true }
  match action.failure with
  | some reason => return some reason
  | none => if action.hangs then throw .hang else return none

/-- Runs a stretch and closes the stream after it, however it ended. -/
def closingStream (body : Run σ Unit) : Run σ Unit := fun p =>
  match body p with
  | (result, p') => (result, { p' with trace := p'.trace ++ [.streamClosed] })

/-! ## Answers -/

/-- The status is a success. -/
def isSuccess (status : Int) : Bool := 200 ≤ status && status < 300

/-- The failure of an answer whose status is no success; code and detail come from its body. -/
def statusFailure (streaming : Bool) (status : Int) (body : Bytes) : Failure :=
  match Json.readBytes body with
  | .ok v =>
    .status streaming status ((v.get? "code").bind Value.asPoints?)
      ((v.get? "message").bind Value.asPoints?)
  | .error _ => .status streaming status none none

/-- Makes a request and takes the one message of its answer. -/
def unary (client : Client σ) (call : Call) (reply : Reply) (request : Request) :
    Run σ Unit := do
  note (.sent request)
  match ← act call.token reply.action with
  | some reason => report client.react (.requestNotMade request.method reason)
  | none =>
    if isSuccess reply.status then
      match Json.readBytes reply.body with
      | .ok message => receive client.react call.signalled message
      | .error _ => report client.react (.undecodableResponse reply.body)
    else report client.react (statusFailure false reply.status reply.body)

/-- Makes a request and takes its answer for a whole stream. -/
def buffered (client : Client σ) (call : Call) (reply : Reply) (request : Request) :
    Run σ Unit := do
  note (.sent request)
  match ← act call.token reply.action with
  | some reason => report client.react (.streamNotStarted reason)
  | none =>
    if isSuccess reply.status then
      deliver client.react call.signalled (parseStream reply.body)
    else report client.react (statusFailure true reply.status reply.body)

/-- The octets of all chunks; none at all if the transport fails on the way. -/
def joinChunks (token : Token) : List Chunk → Run σ (Option Bytes)
  | [] => return some []
  | chunk :: rest => do
    match ← act token chunk.action with
    | some _ => return none
    | none => return (← joinChunks token rest).map ((chunk.data.getD []) ++ ·)

/-- Reads chunks and delivers their items until a final frame, the end, or a failure. -/
def readChunks (client : Client σ) (call : Call) (parser : StreamParser) :
    List Chunk → Run σ Unit
  | [] => deliver client.react call.signalled parser.close.1
  | chunk :: rest => do
    if parser.finished then deliver client.react call.signalled parser.close.1
    else
      match ← act call.token chunk.action with
      | some reason => report client.react (.streamInterrupted reason)
      | none =>
        match chunk.data with
        | none => readChunks client call parser rest
        | some data => do
          let (items, parser') := parser.feed data
          deliver client.react call.signalled items
          readChunks client call parser' rest

/-- Opens a stream and takes its items as they arrive. -/
def incremental (client : Client σ) (call : Call) (reply : Reply) (request : Request) :
    Run σ Unit := do
  note (.sent request)
  match ← act call.token reply.action with
  | some reason => report client.react (.streamNotStarted reason)
  | none =>
    closingStream do
      if isSuccess reply.status then readChunks client call .empty reply.chunks
      else
        let body := (← joinChunks call.token reply.chunks).getD []
        report client.react (statusFailure true reply.status body)

/-! ## Whole calls -/

/-- The media type of a message. -/
def jsonType : String := "application/json"

/-- The media type of a stream of messages. -/
def streamType : String := "application/connect+json"

/-- What a shape of call attempts. -/
def Shape.attempt : Shape → Attempt
  | .get => .get
  | .post => .post
  | .stream => .stream

/-- A message that is written as `text` can go the way of the shape: into a stream it goes as the
one frame, whose header has to announce its length. -/
def Shape.Takes (shape : Shape) (text : String) : Prop :=
  shape = .stream → (⟨0, Utf8.encode text⟩ : Frame).Fits

instance (shape : Shape) (text : String) : Decidable (shape.Takes text) :=
  inferInstanceAs (Decidable (_ → _))

/-- The request of a call whose message is written as `text`, which its shape takes. -/
def requestOf (client : Client σ) (call : Call) (text : String) : Request :=
  let url := methodUrl client.config.baseUrl call.service call.method
  match call.shape with
  | .get =>
    { via := .request, method := "GET"
      url := url ++ "?encoding=json&message=" ++ percentEncode text
      headers := [("Accept", jsonType)], body := none }
  | .post =>
    { via := .request, method := "POST", url
      headers := [("Content-Type", jsonType), ("Accept", jsonType)]
      body := some (Utf8.encode text) }
  | .stream =>
    { via := if client.config.incremental && client.streams then .stream else .request
      method := "POST", url
      headers := [("Content-Type", streamType), ("Accept", streamType),
        ("Connect-Protocol-Version", "1"), ("Cache-Control", "no-cache")]
      body := Frame.encode? 0 (Utf8.encode text) }

/-- Sends the request of a call and takes the answer. -/
def exchange (client : Client σ) (call : Call) (reply : Reply) (request : Request) :
    Run σ Unit :=
  match call.shape, request.via with
  | .stream, .stream => incremental client call reply request
  | .stream, .request => buffered client call reply request
  | _, _ => unary client call reply request

/-- What becomes of an exchange that never goes on: it is given up when the token has been
cancelled, else when the deadline passes. -/
def giveUp (client : Client σ) (timeout : Option Value) : Run σ Unit := do
  if (← get).tokenCancelled then report client.react .cancelled
  else
    match timeout with
    | some seconds => report client.react (.deadlineExceeded seconds)
    | none => throw .hang

/-- Runs the exchange of a call under its deadline and its token. -/
def supervise (client : Client σ) (timeout : Option Value) (token : Token) (body : Run σ Unit) :
    Run σ Unit :=
  if token = .cancelled then report client.react .cancelledUnsent
  else
    match timeout.bind timeoutFault? with
    | some fault => throw (.fault fault)
    | none =>
      tryCatch body fun
        | .hang => giveUp client timeout
        | stop => throw stop

/-- A call from its first check to its end. -/
def Client.run (client : Client σ) (call : Call) (reply : Reply) : Run σ Unit := do
  match isUsableBase client.config.baseUrl with
  | .error fault => throw (.fault (.host fault))
  | .ok false => report client.react (.invalidBaseUrl call.shape.attempt client.config.baseUrl)
  | .ok true =>
    match Json.write call.data with
    | .error (.refused reason) => report client.react (.unencodableRequest reason)
    | .error .halved => throw (.fault .halfCharacter)
    | .ok text =>
      if call.shape.Takes text then
        supervise client (call.timeout <|> client.config.timeout) call.token
          (exchange client call reply (requestOf client call text))
      else throw (.fault .messageLength)

/-- How a call ends. -/
inductive Ending where
  | returned
  | raised (fault : Fault)
  | pending
  deriving DecidableEq, Repr

/-- The ending that the last result of a call is. -/
def Ending.of : Except Stop Unit → Ending
  | .ok () => .returned
  | .error (.fault fault) => .raised fault
  | .error .hang => .pending

/-- A call that has ended, or never will. -/
structure Outcome (σ : Type) where
  ending : Ending
  progress : Progress σ

/-- What a call starts with. -/
def Progress.start (listeners : Listeners σ) : Progress σ := ⟨listeners, [], [], [], false⟩

/-- Performs a call against a transport's script. -/
def Client.perform (client : Client σ) (call : Call) (reply : Reply) : Outcome σ :=
  let last := client.run call reply (.start client.listeners)
  ⟨.of last.1, last.2⟩

end

end Call

end ConnectRpc
