import ConnectRpc.Proofs.Call.Run
import ConnectRpc.Proofs.Wire.Chunking

/-!
# Two ways to take a stream

A streaming call takes its answer chunk by chunk as it arrives, or whole once it is there. This
module proves that the caller and the slots cannot tell which (`perform_stream_agree`): for every
status, every body, every way of cutting the body into chunks and every behaviour of the slots, the
two calls end alike, with the same messages and failures, after the same slot calls with the same
items, and leave the same slots registered.

## How the proof goes

Where the script only delivers chunks, each of the two is one delivery. Reading chunks delivers the
items of each as they are complete; since delivering one list of items and then another is
delivering both (`deliver_append`), that is one delivery of the items that a parser gives for all
chunks and their end (`readChunks_delivered`), and these are the items of the joined body
(`StreamParser.feedAll_close_eq`). It does not matter that slots run, change the slot lists or fail
between two chunks: the deliveries are equal as stretches of a call, before any progress is given.

What is left is what the transport notes: the channel of the request, and that a stream was closed.
`Alike` is blind to that, and the rest of a call keeps it (`supervise_alike`, `run_alike`).
-/

namespace ConnectRpc.Call

open Wire

/-! ## Scripts that only deliver -/

/-- A chunk that arrives without further ado. -/
def Chunk.delivered (data : Bytes) : Chunk := ⟨Action.none, some data⟩

/-- The script that answers with a status and a body: in chunks for a stream, joined for a
request. -/
def Reply.delivered (status : Int) (chunks : List Bytes) : Reply where
  action := Action.none
  status := status
  body := chunks.flatten
  chunks := chunks.map Chunk.delivered

variable {σ : Type}

theorem joinChunks_delivered (token : Token) (chunks : List Bytes) :
    joinChunks token (chunks.map Chunk.delivered) =
      (pure (some chunks.flatten) : Run σ (Option Bytes)) := by
  induction chunks with
  | nil => rfl
  | cons data rest ih =>
    simp only [List.map_cons, joinChunks, Chunk.delivered, act_none, pure_bind, ih,
      Option.map_some, Option.getD_some, List.flatten_cons]

/-! ## Deliveries -/

section

variable [DecidableEq σ]

theorem deliver_append (react : Behaviour σ) (signalled : Bool) (items more : List StreamItem) :
    deliver react signalled (items ++ more) =
      (do deliver react signalled items; deliver react signalled more) := by
  induction items with
  | nil => simp only [List.nil_append, deliver, pure_bind]
  | cons item rest ih =>
    cases item with
    | event message => simp only [List.cons_append, deliver, ih, bind_assoc]
    | failure failure => simp only [List.cons_append, deliver, ih, bind_assoc]

/-- Reading chunks is one delivery of all their items and of those of the end. -/
theorem readChunks_delivered (client : Client σ) (call : Call) (parser : StreamParser)
    (chunks : List Bytes) :
    readChunks client call parser (chunks.map Chunk.delivered) =
      deliver client.react call.signalled
        ((parser.feedAll chunks).1 ++ (parser.feedAll chunks).2.close.1) := by
  induction chunks generalizing parser with
  | nil => rfl
  | cons data rest ih =>
    cases hfinished : parser.finished with
    | true =>
      simp only [List.map_cons, readChunks, hfinished, if_true,
        StreamParser.feedAll_finished hfinished, List.nil_append]
    | false =>
      simp only [List.map_cons, readChunks, hfinished, Bool.false_eq_true, if_false,
        Chunk.delivered, act_none, pure_bind, ih, StreamParser.feedAll_cons, List.append_assoc,
        deliver_append]

/-- What both ways do after the request is sent. -/
def takeBody (client : Client σ) (call : Call) (status : Int) (body : Bytes) : Run σ Unit :=
  if isSuccess status then deliver client.react call.signalled (parseStream body)
  else report client.react (statusFailure true status body)

theorem incremental_delivered (client : Client σ) (call : Call) (status : Int)
    (chunks : List Bytes) (request : Request) :
    incremental client call (.delivered status chunks) request =
      (do note (.sent request); closingStream (takeBody client call status chunks.flatten)) := by
  simp only [incremental, Reply.delivered, act_none, pure_bind, takeBody, readChunks_delivered,
    StreamParser.feedAll_close_eq, joinChunks_delivered, Option.getD_some]

theorem buffered_delivered (client : Client σ) (call : Call) (status : Int)
    (chunks : List Bytes) (request : Request) :
    buffered client call (.delivered status chunks) request =
      (do note (.sent request); takeBody client call status chunks.flatten) := by
  simp only [buffered, Reply.delivered, act_none, pure_bind, takeBody]
  rfl

theorem takeBody_alike (client : Client σ) (call : Call) (status : Int) (body : Bytes) :
    Alike (takeBody client call status body) (takeBody client call status body) := by
  unfold takeBody
  split
  · exact alike_deliver client.react call.signalled _
  · exact alike_report client.react _

/-! ## Whole calls -/

/-- The clients differ at most in how they take streams. -/
structure Client.SameButStreams (client client' : Client σ) : Prop where
  baseUrl : client.config.baseUrl = client'.config.baseUrl
  timeout : client.config.timeout = client'.config.timeout
  listeners : client.listeners = client'.listeners
  react : client.react = client'.react

variable {client client' : Client σ}

/-- However a client takes the stream, the exchange shows what taking the joined body shows. -/
theorem exchange_alike (client : Client σ) {call : Call} (hshape : call.shape = .stream)
    (status : Int) (chunks : List Bytes) (text : String) :
    Alike (exchange client call (.delivered status chunks) (requestOf client call text))
      (takeBody client call status chunks.flatten) := by
  have hbody := takeBody_alike client call status chunks.flatten
  simp only [exchange, requestOf, hshape]
  cases client.config.incremental && client.streams with
  | true =>
    simp only [if_true, incremental_delivered]
    exact hbody.closingStream_left.note_left rfl
  | false =>
    simp only [Bool.false_eq_true, if_false, buffered_delivered]
    exact hbody.note_left rfl

/-- Deadline and token treat alike what is alike. -/
theorem supervise_alike (h : client.react = client'.react) (timeout : Option Value) (token : Token)
    {body body' : Run σ Unit} (hbody : Alike body body') :
    Alike (supervise client timeout token body) (supervise client' timeout token body') := by
  have hgiveUp : giveUp client' timeout = giveUp client timeout := by simp only [giveUp, h]
  simp only [supervise, ← h, hgiveUp]
  split
  · exact alike_report client.react _
  · split
    · exact alike_throw _
    · refine hbody.tryCatch fun stop => ?_
      cases stop with
      | fault fault => exact alike_throw _
      | hang => exact alike_giveUp client timeout

theorem run_alike (h : client.SameButStreams client') {call : Call} (hshape : call.shape = .stream)
    (status : Int) (chunks : List Bytes) :
    Alike (client.run call (.delivered status chunks))
      (client'.run call (.delivered status chunks)) := by
  unfold Client.run
  rw [← h.baseUrl, ← h.timeout, ← h.react]
  cases isUsableBase client.config.baseUrl with
  | error fault => exact alike_throw _
  | ok usable =>
    cases usable with
    | false => exact alike_report client.react _
    | true =>
      cases Json.write call.data with
      | error e =>
        cases e with
        | refused reason => exact alike_report client.react _
        | halved => exact alike_throw _
      | ok text =>
        have htake : takeBody client call status chunks.flatten =
            takeBody client' call status chunks.flatten := by
          simp only [takeBody, h.react]
        have hexchange := exchange_alike client hshape status chunks text
        rw [htake] at hexchange
        dsimp only
        split
        · exact supervise_alike h.react _ call.token
            (hexchange.trans (exchange_alike client' hshape status chunks text).symm)
        · exact alike_throw _

/-- The caller and the slots see no difference. -/
structure Outcome.Agree (a b : Outcome σ) : Prop where
  /-- The call returns, or the same exception escapes. -/
  ending : a.ending = b.ending
  messages : a.progress.messages = b.progress.messages
  failures : a.progress.failures = b.progress.failures
  /-- The same slots were called on the same signals with the same items, in the same order. -/
  calls : a.progress.trace.filterMap Event.slotCall? = b.progress.trace.filterMap Event.slotCall?
  listeners : a.progress.listeners = b.progress.listeners

theorem perform_agree (h : client.SameButStreams client') {call : Call}
    (hshape : call.shape = .stream) (status : Int) (chunks : List Bytes) :
    (client.perform call (.delivered status chunks)).Agree
      (client'.perform call (.delivered status chunks)) := by
  have hstart : (Progress.start client.listeners).seen = (Progress.start client'.listeners).seen :=
    seen_eq_iff.mpr ⟨h.listeners, rfl, rfl, rfl, rfl⟩
  obtain ⟨hresult, hseen⟩ := run_alike h hshape status chunks _ _ hstart
  obtain ⟨hlisteners, hmessages, hfailures, htrace, _⟩ := seen_eq_iff.mp hseen
  constructor
  · rw [perform_ending, perform_ending, hresult]
  · rw [perform_progress, perform_progress, hmessages]
  · rw [perform_progress, perform_progress, hfailures]
  · rw [perform_progress, perform_progress, ← filterMap_slotCall?_filter, htrace,
      filterMap_slotCall?_filter]
  · rw [perform_progress, perform_progress, hlisteners]

/-- **Streams taken as they arrive and streams taken whole agree.** A streaming call over a
transport that opens streams, chunk by chunk, shows the caller and the slots what the same call
shows them over a transport that does not, or with incremental decoding turned off, whose answer is
the joined body. The status, the chunks and the slots' behaviour are arbitrary. -/
theorem perform_stream_agree (client : Client σ) (call : Call) (status : Int)
    (chunks : List Bytes) :
    let streaming := { client with
      streams := true, config := { client.config with incremental := true } }
    let requesting := { client with streams := false }
    let undivided := { client with config := { client.config with incremental := false } }
    let call := { call with shape := .stream }
    let reply := Reply.delivered status chunks
    (streaming.perform call reply).Agree (requesting.perform call reply) ∧
      (streaming.perform call reply).Agree (undivided.perform call reply) := by
  intro streaming requesting undivided call reply
  have hrequesting : streaming.SameButStreams requesting := ⟨rfl, rfl, rfl, rfl⟩
  have hundivided : streaming.SameButStreams undivided := ⟨rfl, rfl, rfl, rfl⟩
  exact ⟨perform_agree hrequesting rfl status chunks, perform_agree hundivided rfl status chunks⟩

end

end ConnectRpc.Call
