import ConnectRpc.Proofs.Call.Requests
import ConnectRpc.Proofs.Json.RoundTrip

/-!
# Messages that are put into a stream

An object of message values is put into a stream as the frame of its text (`EnvelopeOf`). A body of
such frames is parsed to the objects, in their order, and the body of a streaming call to the one
object that the call was made with (`messages_round_trip`).
-/

namespace ConnectRpc.Call

open Wire

/-- The octets are the frame, without flags, of the text that an object of message values is
written as. -/
structure EnvelopeOf (v : Value) (octets : Bytes) : Prop where
  message : Json.IsMessageValue v
  object : ∃ members, v = .dict members
  written : ∃ text, Json.write v = .ok text ∧ Frame.encode? 0 (Utf8.encode text) = some octets

/-- An object in an envelope is the first event of what begins with the envelope. -/
theorem EnvelopeOf.parseStream_append {v : Value} {octets : Bytes} (h : EnvelopeOf v octets)
    (rest : Bytes) : parseStream (octets ++ rest) = .event v :: parseStream rest := by
  obtain ⟨text, htext, hoctets⟩ := h.written
  obtain ⟨hfits, rfl⟩ := encode?_unflagged_iff.mp hoctets
  have hread : Json.readBytes (Utf8.encode text) = .ok v := Json.readBytes_of_write h.message htext
  have hitem : (⟨0, Utf8.encode text⟩ : Frame).item? = some (.event v) := by
    obtain ⟨members, rfl⟩ := h.object
    simp only [Frame.item?, isCompressed_unflagged, isFinal_unflagged, hread, Bool.false_eq_true,
      if_false]
    rfl
  rw [parseStream_encode_append hfits, hitem, isFinal_unflagged, if_neg (by decide)]
  rfl

/-- Objects in envelopes are the events of the envelopes put together. -/
theorem parseStream_envelopes {vs : List Value} {envelopes : List Bytes}
    (h : List.Forall₂ EnvelopeOf vs envelopes) :
    parseStream envelopes.flatten = vs.map .event := by
  induction h with
  | nil => exact parseStream_truncated (.inl (by decide))
  | cons hfirst _ ih => rw [List.flatten_cons, hfirst.parseStream_append, ih, List.map_cons]

/-- The body of a streaming call is the envelope of the object that it was made with. -/
theorem EnvelopeOf.body_requestOf {σ : Type} {client : Client σ} {call : Call} {text : String}
    {octets : Bytes} (h : EnvelopeOf call.data octets) (hwritten : Json.write call.data = .ok text)
    (hshape : call.shape = .stream) : (requestOf client call text).body = some octets := by
  obtain ⟨text', htext', hoctets⟩ := h.written
  obtain rfl : text' = text := Except.ok.inj (htext'.symm.trans hwritten)
  rw [requestOf, hshape]
  exact hoctets

/-- **Writing messages into a stream and parsing it gives the messages.** The envelopes of several
objects, one behind the other, are parsed to the objects; and a streaming call that is sent sends
one request, with the envelope of its object as the body, which is parsed to the object again. -/
theorem messages_round_trip :
    (∀ vs envelopes, List.Forall₂ EnvelopeOf vs envelopes →
      parseStream envelopes.flatten = vs.map .event) ∧
    ∀ {σ : Type} [DecidableEq σ] (client : Client σ) (call : Call) (text : String)
      (octets : Bytes), client.Sends call text → call.shape = .stream →
      EnvelopeOf call.data octets → ∀ reply, ∃ request,
        (client.perform call reply).progress.sent = [request] ∧ request.body = some octets ∧
        parseStream octets = [.event call.data] := by
  refine ⟨fun vs envelopes h => parseStream_envelopes h, ?_⟩
  intro σ _ client call text octets hsends hshape henvelope reply
  refine ⟨_, hsends.sent reply, henvelope.body_requestOf hsends.written hshape, ?_⟩
  have hone : List.Forall₂ EnvelopeOf [call.data] [octets] := .cons henvelope .nil
  simpa only [List.flatten_singleton, List.map_singleton] using parseStream_envelopes hone

/-- A member that is an object inside a list, behind an empty list, with characters that are
escaped and a key beyond ASCII. -/
def nestedData : Value :=
  .dict [(.text "é", .list [.list [], .dict [(.text "\"\\", .text "\n\t")], .int (-20)]),
    (.text "", .null)]

theorem isMessageValue_nestedData : Json.IsMessageValue nestedData := by
  refine .dict ⟨by simp, by simp⟩ ?_
  simp only [List.forall_mem_cons, List.not_mem_nil, false_imp_iff, implies_true, and_true]
  refine ⟨.list ?_, .null⟩
  simp only [List.forall_mem_cons, List.not_mem_nil, false_imp_iff, implies_true, and_true]
  refine ⟨.list (by simp), .dict ⟨by simp, by simp⟩ ?_, .int (-20)⟩
  simp only [List.forall_mem_cons, List.not_mem_nil, false_imp_iff, implies_true, and_true]
  exact .text _

/-- Two envelopes are parsed, and the first of them is sent. -/
theorem messages_round_trip_nested :
    let client := growingClient "http://localhost:8080" none
    let call : Call := { emptyCall .stream with data := nestedData }
    let text := "\x7b\"é\":[[],\x7b\"\\\"\\\\\":\"\\n\\t\"\x7d,-20],\"\":null\x7d"
    let octets := 0 :: 0 :: 0 :: 0 :: 39 :: Utf8.encode text
    let bare := [0, 0, 0, 0, 2, 123, 125]
    List.Forall₂ EnvelopeOf [nestedData, .dict []] [octets, bare] ∧
      parseStream (octets ++ bare) = [.event nestedData, .event (.dict [])] ∧
      client.Sends call text ∧ ∀ reply, ∃ request,
        (client.perform call reply).progress.sent = [request] ∧ request.body = some octets ∧
        parseStream octets = [.event nestedData] := by
  intro client call text octets bare
  have hnested : EnvelopeOf nestedData octets :=
    ⟨isMessageValue_nestedData, ⟨_, rfl⟩, text, by decide +kernel, by decide +kernel⟩
  have hbare : EnvelopeOf (.dict []) bare :=
    ⟨.dict ⟨by simp, by simp⟩ (by simp), ⟨_, rfl⟩, "\x7b\x7d", by decide +kernel, by decide +kernel⟩
  have henvelopes : List.Forall₂ EnvelopeOf [nestedData, .dict []] [octets, bare] :=
    .cons hnested (.cons hbare .nil)
  have hsends : client.Sends call text :=
    { usable := by decide +kernel
      written := by decide +kernel
      taken := fun _ => by decide +kernel
      uncancelled := by decide
      timed := rfl }
  refine ⟨henvelopes, ?_, hsends, ?_⟩
  · simpa using messages_round_trip.1 _ _ henvelopes
  · exact messages_round_trip.2 client call text octets hsends rfl hnested

end ConnectRpc.Call
