import ConnectRpc.Proofs.Call.Outcomes
import ConnectRpc.Proofs.Wire.Events

/-!
# Result and signals

A caller learns of messages and failures twice, from the call's result and from the signals. Both
tell the same story, whatever the call, the transport and the slots do: what is emitted on the error
signal are the result's failures, and what is emitted on the call's own signal its messages, each in
their order (`perform_records`).

For a stream that is answered the story is that of its octets: the items of what arrives, in one
order over both signals, then at most one failure that cut the stream short. What an exchange brings
(`receptionOf`) is split accordingly into the items of what arrives and the rest
(`reading_received`).
-/

namespace ConnectRpc.Call

open Wire

variable {σ : Type}

/-! ## Emissions of items -/

section

variable {signalled : Bool} {items : List StreamItem} {p : Progress σ}

/-- The failures of a call are what it emits on the error signal. -/
theorem Progress.Tells.emittedOn_failures (h : p.Tells signalled items) :
    p.emittedOn .failures = p.failures.map .failure := by
  rw [Progress.emittedOn, h.emitted, h.failures]
  clear h
  induction items with
  | nil => rfl
  | cons item rest ih =>
    cases item with
    | event v =>
      cases signalled with
      | true => simpa [List.filterMap_cons, emissionOf, StreamItem.failure?] using ih
      | false => simpa [List.filterMap_cons, emissionOf, StreamItem.failure?] using ih
    | failure f => simpa [List.filterMap_cons, emissionOf, StreamItem.failure?] using ih

/-- The messages of a call are what it emits on its own signal, if it has one. -/
theorem Progress.Tells.emittedOn_messages (h : p.Tells signalled items) :
    p.emittedOn .messages = if signalled then p.messages.map .event else [] := by
  rw [Progress.emittedOn, h.emitted, h.messages]
  clear h
  induction items with
  | nil => cases signalled <;> rfl
  | cons item rest ih =>
    cases item with
    | event v =>
      cases signalled with
      | true => simpa [List.filterMap_cons, emissionOf, StreamItem.event?] using ih
      | false => simpa [List.filterMap_cons, emissionOf, StreamItem.event?] using ih
    | failure f => simpa [List.filterMap_cons, emissionOf, StreamItem.event?] using ih

end

/-! ## Streams -/

/-- The failure ends a stream before its octets do. -/
inductive CutsShort : Failure → Prop
  | interrupted (reason : String) : CutsShort (.streamInterrupted reason)
  | deadlineExceeded (seconds : Value) : CutsShort (.deadlineExceeded seconds)
  | cancelled : CutsShort .cancelled

/-- The items of what arrives of a stream's body. Those of its end are among them if the body is
read to its end. -/
def Reply.received (reply : Reply) : Channel → List StreamItem
  | .request => parseStream reply.body
  | .stream =>
    if lastTurn reply.chunks = .goesOn then parseStream (arrived reply.chunks)
    else (StreamParser.empty.feed (arrived reply.chunks)).1

/-- Chunks bring the items of what arrives, then at most one failure that cuts the stream short, and
none if they hang. -/
theorem reading_received (reply : Reply) :
    ∃ closing : List Failure,
      (reading .empty reply.chunks).items = reply.received .stream ++ closing.map .failure ∧
      (∀ failure ∈ closing, CutsShort failure) ∧ closing.length ≤ 1 ∧
      ((reading .empty reply.chunks).hangs = true → closing = []) := by
  simp only [reading, Reply.received, parseStream]
  cases hfinished : (StreamParser.empty.feed (arrived reply.chunks)).2.finished with
  | true =>
    refine ⟨[], ?_, by simp, Nat.zero_le 1, fun _ => rfl⟩
    rw [if_pos rfl, StreamParser.close_finished hfinished]
    simp
  | false =>
    rw [if_neg Bool.false_ne_true]
    cases lastTurn reply.chunks with
    | goesOn => exact ⟨[], by simp, by simp, Nat.zero_le 1, fun _ => rfl⟩
    | hangs => exact ⟨[], by simp, by simp, Nat.zero_le 1, fun _ => rfl⟩
    | fails reason =>
      refine ⟨[.streamInterrupted reason], by simp, ?_, Nat.le_refl 1, by simp⟩
      intro failure hfailure
      rw [List.mem_singleton.mp hfailure]
      exact .interrupted reason

section

variable {client : Client σ} {call : Call} {reply : Reply} {request : Request}

theorem cutsShort_of_conclusion? {failure : Failure}
    (h : client.conclusion? call reply request = some failure) : CutsShort failure := by
  unfold Client.conclusion? at h
  split at h
  · injection h with h
    rw [← h]
    exact .cancelled
  · obtain ⟨seconds, -, rfl⟩ := Option.map_eq_some_iff.mp h
    exact .deadlineExceeded seconds

/-- A stream that is answered with a success comes to the items of what arrives, then at most one
failure that cuts it short. -/
theorem concluded_received (client : Client σ) (hshape : call.shape = .stream)
    (hturn : reply.action.turn = .goesOn) (hstatus : isSuccess reply.status = true) :
    ∃ closing : List Failure,
      (receptionOf call reply request).concluded (client.conclusion? call reply request) =
        reply.received request.via ++ closing.map .failure ∧
      (∀ failure ∈ closing, CutsShort failure) ∧ closing.length ≤ 1 := by
  rw [receptionOf_answered hshape hturn hstatus]
  cases request.via with
  | request => exact ⟨[], rfl, by simp, Nat.zero_le 1⟩
  | stream =>
    obtain ⟨closing, hitems, hclosing, hlength, hhangs⟩ := reading_received reply
    simp only [Reception.concluded, hitems]
    cases hreading : (reading .empty reply.chunks).hangs with
    | false => exact ⟨closing, by simp, hclosing, hlength⟩
    | true =>
      refine ⟨(client.conclusion? call reply request).toList, by simp [hhangs hreading], ?_, ?_⟩
      · intro failure hfailure
        exact cutsShort_of_conclusion? (Option.mem_toList.mp hfailure)
      · cases client.conclusion? call reply request with
        | none => exact Nat.zero_le 1
        | some failure => exact Nat.le_refl 1

end

/-! ## Calls -/

/-- **Result and signals tell the same story.** What a call emits on the error signal are the
failures of its result, and what it emits on its own signal the messages, even if slots fail. If no
slot fails, the records of a stream that is answered with a success are, in one order, the items of
what arrives and then at most one failure that cut it short. -/
theorem perform_records [DecidableEq σ] (client : Client σ) (call : Call) (reply : Reply) :
    let progress := (client.perform call reply).progress
    progress.emittedOn .failures = progress.failures.map .failure ∧
    progress.emittedOn .messages =
      (if call.signalled then progress.messages.map .event else []) ∧
    ∀ text, client.Sends call text → client.NoSlotFails call reply → call.shape = .stream →
      reply.action.turn = .goesOn → isSuccess reply.status = true →
        ∃ closing : List Failure,
          progress.Tells call.signalled
            (reply.received (requestOf client call text).via ++ closing.map .failure) ∧
          (∀ failure ∈ closing, CutsShort failure) ∧ closing.length ≤ 1 := by
  intro progress
  obtain ⟨items, htells⟩ := perform_tells client call reply
  refine ⟨htells.emittedOn_failures, htells.emittedOn_messages, ?_⟩
  intro text h hslots hshape hturn hstatus
  obtain ⟨closing, hitems, hclosing⟩ := concluded_received client hshape hturn hstatus
  refine ⟨closing, ?_, hclosing⟩
  rw [← hitems]
  exact (h.shows hslots).tells

/-! ## A stream that breaks off -/

/-- A frame that holds a list, and the first two octets of another. -/
def listThenHeader : Bytes := Frame.encode ⟨0, listText⟩ ++ [0, 0]

theorem listThenHeader_framing : Framing listThenHeader [⟨0, listText⟩] [0, 0] where
  written := by decide
  joined := rfl
  truncated := .inl (by decide)

theorem feed_listThenHeader : (StreamParser.empty.feed listThenHeader).1 = [.event (.list [])] := by
  rw [(StreamParser.feed_framing listThenHeader_framing).1]
  simp [throughFinal, Frame.isFinal, Frame.item?, Frame.isCompressed, readBytes_listText,
    messageItem?]

/-- The transport fails inside a frame, behind one that holds a list, and slots connect others: the
list is told first, then at most one failure, which cuts the stream short. -/
theorem perform_records_broken_off :
    let client := growingClient "http://localhost:8080" none
    let call := emptyCall .stream
    let reply : Reply := ⟨.none, 200, [],
      [⟨.none, some listThenHeader⟩, ⟨⟨false, some "connection reset", false⟩, none⟩]⟩
    client.Sends call "\x7b\x7d" ∧ client.NoSlotFails call reply ∧ call.shape = .stream ∧
      reply.action.turn = .goesOn ∧ isSuccess reply.status = true ∧
      ∃ closing : List Failure,
        (client.perform call reply).progress.Tells true
          (.event (.list []) :: closing.map .failure) ∧
        (∀ failure ∈ closing, CutsShort failure) ∧ closing.length ≤ 1 := by
  have husable : isUsableBase "http://localhost:8080" = .ok true := rfl
  intro client call reply
  have hsends : client.Sends call "\x7b\x7d" :=
    growingClient_sends .stream husable (by decide) rfl
  have hslots : client.NoSlotFails call reply := growingClient_noSlotFails _ _ call reply
  have hshape : call.shape = .stream := rfl
  have hturn : reply.action.turn = .goesOn := rfl
  have hstatus : isSuccess reply.status = true := rfl
  have hreceived : reply.received (requestOf client call "\x7b\x7d").via = [.event (.list [])] :=
    feed_listThenHeader
  have hsignalled : call.signalled = true := rfl
  clear_value client call reply
  obtain ⟨-, -, hstream⟩ := perform_records client call reply
  obtain ⟨closing, htells, hclosing⟩ := hstream _ hsends hslots hshape hturn hstatus
  rw [hreceived, hsignalled] at htells
  exact ⟨hsends, hslots, hshape, hturn, hstatus, closing, htells, hclosing⟩

end ConnectRpc.Call
