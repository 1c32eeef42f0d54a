import ConnectRpc.Proofs.Call.Exceptions
import ConnectRpc.Proofs.Call.Percent
import ConnectRpc.Proofs.Wire.Framing

/-!
# Requests and the messages they carry

A call that is sent has sent its one request and sends no other, whatever the transport and the
slots do (`Client.Sends.sent`); a call that opens in another way sends nothing.

The three shapes put the message into the request in three ways. `Request.Carries` reads it out of
the request again, as a server would: out of the query, out of the body, or out of the one frame
that the body is decoded to. What is read out is in each case the text that the message is written
as (`shapes_carry_one_text`).
-/

namespace ConnectRpc.Call

open Wire

variable {σ : Type}

/-! ## What is sent -/

/-- The requests are those that have been sent. -/
def HasSent (requests : List Request) (p : Progress σ) : Prop := p.sent = requests

theorem HasSent.gains {signalled cancels : Bool} {items : List StreamItem}
    {requests : List Request} {p p' : Progress σ} (h : HasSent requests p)
    (hgains : Gains signalled items [] cancels p p') : HasSent requests p' := by
  rw [HasSent, hgains.sent, h, List.append_nil]

section

variable [DecidableEq σ]

/-- Taking an answer sends nothing. -/
theorem answerKeeps_hasSent (react : Behaviour σ) (requests : List Request) (signalled : Bool) :
    AnswerKeeps react (HasSent requests) (fun _ => HasSent requests) signalled where
  report failure p hp := .of_both (hp.gains (report_gains react p signalled failure))
  receive message p hp := .of_both (hp.gains (receive_gains react p signalled message))
  closed p hp := hp.gains (@Gains.closing σ signalled p)
  closedAfter _ p hp := hp.gains (@Gains.closing σ signalled p)
  cancelled _ hp := hp

variable {client : Client σ} {call : Call} {text : String}

/-- **A call that is sent sends its request and no other**, whether slots fail or not. -/
theorem Client.Sends.sent (h : client.Sends call text) (reply : Reply) :
    (client.perform call reply).progress.sent = [requestOf client call text] := by
  have hkeeps := answerKeeps_hasSent client.react [requestOf client call text] call.signalled
  have hsending : Sending (HasSent [] : Progress σ → Prop)
      (HasSent [requestOf client call text]) (requestOf client call text) := by
    intro p hp
    rw [HasSent, (@Gains.sending σ call.signalled _ p).sent, hp, List.nil_append]
  have hrun : Turns (HasSent []) (HasSent [requestOf client call text])
      (fun _ => HasSent [requestOf client call text]) (client.run call reply) := by
    rw [h.run reply]
    exact (hkeeps.exchange hsending reply).tryCatch (hkeeps.giveUp _) fun _ => rfl
  rw [perform_progress]
  exact (hrun (.start client.listeners) rfl).both

/-- A call that is refused sends nothing and reports the one failure, whether slots fail or not. -/
theorem Client.Refuses.tells {failure : Failure} (h : client.Refuses call failure)
    (reply : Reply) :
    (client.perform call reply).progress.sent = [] ∧
      (client.perform call reply).progress.Tells call.signalled [.failure failure] := by
  have hgains := report_gains client.react (.start client.listeners) call.signalled failure
  rw [perform_progress, h.run reply]
  exact ⟨hgains.sent, hgains.tells⟩

end

/-! ## What is carried -/

/-- The request carries the octets to the method at the URL, in the way of the shape. -/
inductive Request.Carries (request : Request) (url : String) : Shape → Bytes → Prop
  /-- The query's value stands for them. -/
  | get {value : String} (hurl : request.url = url ++ "?encoding=json&message=" ++ value)
      (hvalue : QueryValue value.toList) : request.Carries url .get (percentDecode value.toList)
  /-- They are the body. -/
  | post {body : Bytes} (hurl : request.url = url) (hbody : request.body = some body) :
      request.Carries url .post body
  /-- The body is decoded to one frame, with nothing pending; they are its payload. -/
  | stream {body : Bytes} {frame : Frame} (hurl : request.url = url)
      (hbody : request.body = some body) (hframe : Decoder.empty.feed body = ([frame], .empty))
      (hopen : frame.isFinal = false) (hplain : frame.isCompressed = false) :
      request.Carries url .stream frame.payload

/-- In a query nothing ends the parameter or begins a fragment. -/
theorem Request.Carries.exists_value {request : Request} {url : String} {bytes : Bytes}
    (h : request.Carries url .get bytes) :
    ∃ value, request.url = url ++ "?encoding=json&message=" ++ value ∧
      '&' ∉ value.toList ∧ '#' ∉ value.toList := by
  cases h with
  | get hurl hvalue =>
    exact ⟨_, hurl, hvalue.not_mem (by decide) (by decide) (by decide),
      hvalue.not_mem (by decide) (by decide) (by decide)⟩

/-- Without flags a frame neither ends the stream nor is it compressed. -/
theorem isFinal_unflagged (payload : Bytes) : (⟨0, payload⟩ : Frame).isFinal = false := by
  have hflag : ((0 : UInt8) &&& 0x02 != 0) = false := by decide
  exact hflag

theorem isCompressed_unflagged (payload : Bytes) :
    (⟨0, payload⟩ : Frame).isCompressed = false := by
  have hflag : ((0 : UInt8) &&& 0x01 != 0) = false := by decide
  exact hflag

/-- The encoder accepts a payload without flags exactly if its length can be announced. -/
theorem encode?_unflagged_iff {payload octets : Bytes} :
    Frame.encode? 0 payload = some octets ↔
      (⟨0, payload⟩ : Frame).Fits ∧ octets = (⟨0, payload⟩ : Frame).encode := by
  have haccepts := Frame.encode?_eq_some_iff ⟨0, payload⟩
  constructor
  · intro h
    have hfits : (⟨0, payload⟩ : Frame).Fits := by
      by_contra hlong
      have hnone : Frame.encode? 0 payload = none := if_neg fun hc => hlong hc.2.2
      rw [hnone] at h
      cases h
    exact ⟨hfits, Option.some.inj (h.symm.trans (haccepts.mpr hfits))⟩
  · rintro ⟨hfits, rfl⟩
    exact haccepts.mpr hfits

/-- A frame on its own is decoded, and nothing is left. -/
theorem feed_encode {frame : Frame} (hfits : frame.Fits) (hopen : frame.isFinal = false) :
    Decoder.empty.feed frame.encode = ([frame], .empty) := by
  have hsplit : Frame.split? frame.encode = some (frame, []) := by
    simpa only [List.append_nil] using Frame.split?_encode_append frame [] hfits
  rw [Decoder.feed_open rfl]
  show Decoder.drain frame.encode = _
  rw [Decoder.drain_open hsplit hopen, Decoder.drain_truncated rfl]
  rfl

/-- The request of a call carries the written message, if the shape takes it. -/
theorem carries_requestOf (client : Client σ) (call : Call) (text : String)
    (htaken : call.shape.Takes text) :
    (requestOf client call text).Carries
      (methodUrl client.config.baseUrl call.service call.method) call.shape
      (Utf8.encode text) := by
  unfold requestOf
  generalize methodUrl client.config.baseUrl call.service call.method = url
  cases hshape : call.shape with
  | get =>
    have hquery := queryValue_percentChars (Utf8.encode text)
    have hcarries := @Request.Carries.get
      ⟨.request, "GET", url ++ "?encoding=json&message=" ++ percentEncode text,
        [("Accept", jsonType)], none⟩ url (percentEncode text) rfl
    rw [percentEncode, String.toList_ofList, percentDecode_percentChars] at hcarries
    exact hcarries hquery
  | post => exact .post rfl rfl
  | stream =>
    have hfits : (⟨0, Utf8.encode text⟩ : Frame).Fits := htaken hshape
    exact .stream rfl (encode?_unflagged_iff.mpr ⟨hfits, rfl⟩)
      (feed_encode hfits (isFinal_unflagged _)) (isFinal_unflagged _) (isCompressed_unflagged _)

/-- **The shapes carry one text.** A call with a message that can be written, in whichever shape it
is made, sends one request, and that carries the octets of the text which the message is written as.
In the query, nothing of it ends the parameter or begins a fragment. -/
theorem shapes_carry_one_text [DecidableEq σ] (client : Client σ) (call : Call) (text : String)
    (h : client.Sends call text) (hlength : (Utf8.encode text).length < 0x100000000) (shape : Shape)
    (reply : Reply) :
    let url := methodUrl client.config.baseUrl call.service call.method
    ∃ request, (client.perform { call with shape } reply).progress.sent = [request] ∧
      request.Carries url shape (Utf8.encode text) ∧
      (shape = .get → ∃ value, request.url = url ++ "?encoding=json&message=" ++ value ∧
        '&' ∉ value.toList ∧ '#' ∉ value.toList) := by
  intro url
  have htaken : shape.Takes text := fun _ => hlength
  have hsends : client.Sends { call with shape } text :=
    ⟨⟨h.usable, h.written, htaken, h.uncancelled⟩, h.timed⟩
  have hcarries := carries_requestOf client { call with shape } text htaken
  refine ⟨_, hsends.sent reply, hcarries, ?_⟩
  rintro rfl
  exact hcarries.exists_value

/-- A search for a text with a letter beyond ASCII and characters that mean something in a URL. -/
def searchCall : Call :=
  { emptyCall .get with data := .dict [(.text "q", .text "é&#%")] }

/-- The search is sent in each of the shapes. -/
theorem shapes_carry_one_text_search :
    let client := growingClient "http://localhost:8080" none
    let text := "\x7b\"q\":\"é&#%\"\x7d"
    client.Sends searchCall text ∧ (Utf8.encode text).length < 0x100000000 ∧
      ∀ shape reply, ∃ request,
        (client.perform { searchCall with shape } reply).progress.sent = [request] ∧
        request.Carries "http://localhost:8080/greet.v1.GreetService/Greet" shape
          (Utf8.encode text) ∧
        (shape = .get → ∃ value,
          request.url = "http://localhost:8080/greet.v1.GreetService/Greet" ++
            "?encoding=json&message=" ++ value ∧
          '&' ∉ value.toList ∧ '#' ∉ value.toList) := by
  intro client text
  have hurl : methodUrl client.config.baseUrl searchCall.service searchCall.method =
      "http://localhost:8080/greet.v1.GreetService/Greet" := by decide +kernel
  have hsends : client.Sends searchCall text :=
    { usable := by decide +kernel
      written := by decide +kernel
      taken := fun _ => by decide +kernel
      uncancelled := by decide
      timed := rfl }
  have hlength : (Utf8.encode text).length < 0x100000000 := by decide +kernel
  refine ⟨hsends, hlength, fun shape reply => ?_⟩
  have hcarries := shapes_carry_one_text client searchCall text hsends hlength shape reply
  rwa [hurl] at hcarries

end ConnectRpc.Call
