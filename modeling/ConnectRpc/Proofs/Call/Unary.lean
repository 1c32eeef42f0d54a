import ConnectRpc.Proofs.Call.Outcomes
import ConnectRpc.Proofs.Wire.Events

/-!
# Unary calls have one outcome

A unary call that returns has either one message or one failure, never both and never none, and has
made one request at most (`perform_unary`). It has made none exactly if it was refused, for one of
three causes that are looked for in a fixed order; and it has a message exactly if the transport
answered with a success and a body that is JSON text, of which the message is then the value.

The proof follows the openings of a call. A call that is refused has its failure. For one that is
sent, `concluded_unary` goes through the ways in which the script may go on, and finds that each
comes to one item.
-/

namespace ConnectRpc.Call

open Wire

variable {σ : Type}

/-- The failure is one of a call that sends nothing. -/
inductive Unsent : Failure → Prop
  | invalidBaseUrl (attempt : Attempt) (url : String) : Unsent (.invalidBaseUrl attempt url)
  | unencodableRequest (reason : Json.EncodeError) : Unsent (.unencodableRequest reason)
  | cancelledUnsent : Unsent .cancelledUnsent

/-- The transport answers with a success and the JSON text of a value. -/
structure Reply.Answers (reply : Reply) (v : Value) : Prop where
  goesOn : reply.action.turn = .goesOn
  success : 200 ≤ reply.status ∧ reply.status ≤ 299
  decoded : ∃ cs, Utf8.decodeChars? reply.body = some cs ∧ Json.read cs = .ok v

theorem readBytes_ok_iff {bytes : Bytes} {v : Value} :
    Json.readBytes bytes = .ok v ↔
      ∃ cs, Utf8.decodeChars? bytes = some cs ∧ Json.read cs = .ok v := by
  unfold Json.readBytes
  cases Utf8.decodeChars? bytes with
  | none => simp
  | some cs => simp

theorem isSuccess_iff {status : Int} : isSuccess status = true ↔ 200 ≤ status ∧ status ≤ 299 := by
  simp only [isSuccess, Bool.and_eq_true, decide_eq_true_eq]
  omega

theorem answers_iff {reply : Reply} {v : Value} :
    reply.Answers v ↔ reply.action.turn = .goesOn ∧ reply.answer = .event v := by
  have hanswer : reply.answer = .event v ↔
      isSuccess reply.status = true ∧ Json.readBytes reply.body = .ok v := by
    unfold Reply.answer
    cases isSuccess reply.status with
    | false => simp
    | true =>
      cases Json.readBytes reply.body with
      | ok message => simp
      | error e => simp
  rw [hanswer, isSuccess_iff, readBytes_ok_iff]
  exact ⟨fun h => ⟨h.goesOn, h.success, h.decoded⟩, fun h => ⟨h.1, h.2.1, h.2.2⟩⟩

/-- An item is what a unary call comes to that is sent: the value of a proper answer, or a failure
that only calls have that are sent. -/
structure Reply.Yields (reply : Reply) (item : StreamItem) : Prop where
  event_iff : ∀ v, item = .event v ↔ reply.Answers v
  sent : ∀ failure, item = .failure failure → ¬ Unsent failure

section

variable {client : Client σ} {call : Call} {reply : Reply} {request : Request}

theorem yields_answer (hturn : reply.action.turn = .goesOn) : reply.Yields reply.answer where
  event_iff v := by rw [answers_iff, and_iff_right hturn]
  sent failure hfailure := by
    unfold Reply.answer at hfailure
    split at hfailure
    · split at hfailure
      · cases hfailure
      · cases hfailure
        rintro ⟨⟩
    · cases hfailure
      unfold statusFailure
      split
      · rintro ⟨⟩
      · rintro ⟨⟩

/-- Where the transport does not answer, the call comes to a failure. -/
theorem yields_failure (hturn : reply.action.turn ≠ .goesOn) {failure : Failure}
    (hsent : ¬ Unsent failure) : reply.Yields (.failure failure) where
  event_iff v := by
    rw [answers_iff]
    exact ⟨by simp, fun h => absurd h.1 hturn⟩
  sent failure' hfailure := by
    cases hfailure
    exact hsent

theorem not_unsent_of_conclusion? {failure : Failure}
    (h : client.conclusion? call reply request = some failure) : ¬ Unsent failure := by
  unfold Client.conclusion? at h
  split at h
  · cases h
    rintro ⟨⟩
  · obtain ⟨seconds, -, rfl⟩ := Option.map_eq_some_iff.mp h
    rintro ⟨⟩

/-- The reception of a unary call. -/
theorem receptionOf_unary (hshape : call.shape ≠ .stream) :
    receptionOf call reply request =
      awaiting reply.action (.requestNotMade request.method) ⟨[reply.answer], false⟩ := by
  unfold receptionOf
  cases hcall : call.shape with
  | get => rfl
  | post => rfl
  | stream => exact absurd hcall hshape

/-- A unary call that is sent and ends comes to one item. -/
theorem concluded_unary (client : Client σ) (hshape : call.shape ≠ .stream)
    (hending : (receptionOf call reply request).ending (client.conclusion? call reply request) =
      .returned) :
    ∃ item, (receptionOf call reply request).concluded (client.conclusion? call reply request) =
      [item] ∧ reply.Yields item := by
  rw [receptionOf_unary hshape] at hending ⊢
  unfold awaiting at hending ⊢
  cases hturn : reply.action.turn with
  | goesOn => exact ⟨reply.answer, rfl, yields_answer hturn⟩
  | fails reason =>
    exact ⟨_, rfl, yields_failure (Action.turn_ne_of_fails hturn) (by rintro ⟨⟩)⟩
  | hangs =>
    rw [hturn] at hending
    cases hconclusion : client.conclusion? call reply request with
    | none =>
      rw [hconclusion] at hending
      cases hending
    | some failure =>
      exact ⟨_, rfl, yields_failure (Action.turn_ne_of_hangs hturn)
        (not_unsent_of_conclusion? hconclusion)⟩

end

/-! ## Calls -/

theorem Client.Refuses.unsent {client : Client σ} {call : Call} {failure : Failure}
    (h : client.Refuses call failure) : Unsent failure := by
  cases h with
  | invalidBaseUrl => exact .invalidBaseUrl _ _
  | unencodableRequest => exact .unencodableRequest _
  | cancelledUnsent => exact .cancelledUnsent

/-- The one outcome of a unary call, as its records show it. -/
structure OneOutcome (client : Client σ) (call : Call) (reply : Reply) (p : Progress σ) : Prop where
  /-- There is one message or one failure. -/
  one : p.messages.length + p.failures.length = 1
  sentOnce : p.sent.length ≤ 1
  /-- Nothing is sent exactly if the call is refused; its failure then is the one it is refused
  with. -/
  unsent_iff_refused : p.sent = [] ↔ ∃ failure, client.Refuses call failure ∧ p.failures = [failure]
  /-- Nothing is sent exactly if the failure is of a kind with which calls are refused. -/
  unsent_iff_kind : p.sent = [] ↔ ∃ failure ∈ p.failures, Unsent failure
  /-- There is a message exactly if the transport answers with it. -/
  message_iff : ∀ v, p.messages = [v] ↔ p.sent ≠ [] ∧ reply.Answers v

section

variable {client : Client σ} {call : Call} {reply : Reply} {outcome : Outcome σ}

theorem oneOutcome_of_refuses {failure : Failure} (h : client.Refuses call failure)
    (hshows : outcome.Shows call.signalled .returned [] [.failure failure]) :
    OneOutcome client call reply outcome.progress := by
  have hmessages : outcome.progress.messages = [] := hshows.tells.messages
  have hfailures : outcome.progress.failures = [failure] := hshows.tells.failures
  constructor
  · rw [hmessages, hfailures]
    rfl
  · rw [hshows.sent]
    exact Nat.zero_le 1
  · exact ⟨fun _ => ⟨failure, h, hfailures⟩, fun _ => hshows.sent⟩
  · rw [hfailures]
    exact ⟨fun _ => ⟨failure, List.mem_singleton_self failure, h.unsent⟩, fun _ => hshows.sent⟩
  · intro v
    rw [hmessages, hshows.sent]
    exact ⟨by simp, fun hv => absurd rfl hv.1⟩

theorem oneOutcome_of_yields {ending : Ending} {request : Request} {item : StreamItem}
    (h : reply.Yields item) (hshows : outcome.Shows call.signalled ending [request] [item]) :
    OneOutcome client call reply outcome.progress := by
  have hmessages := hshows.tells.messages
  have hfailures := hshows.tells.failures
  have hkind : ∀ failure ∈ outcome.progress.failures, ¬ Unsent failure := by
    intro failure hmem
    rw [hfailures] at hmem
    obtain ⟨item', hitem', hfailure⟩ := List.mem_filterMap.mp hmem
    obtain rfl := List.mem_singleton.mp hitem'
    cases item' with
    | event v => cases hfailure
    | failure failure' =>
      cases hfailure
      exact h.sent failure rfl
  constructor
  · rw [hmessages, hfailures]
    cases item with
    | event v => rfl
    | failure failure => rfl
  · rw [hshows.sent]
    exact Nat.le_refl 1
  · rw [hshows.sent]
    refine ⟨by simp, ?_⟩
    rintro ⟨failure, hrefuses, heq⟩
    refine absurd hrefuses.unsent (hkind failure ?_)
    rw [heq]
    exact List.mem_singleton_self failure
  · rw [hshows.sent]
    refine ⟨by simp, ?_⟩
    rintro ⟨failure, hmem, hunsent⟩
    exact absurd hunsent (hkind failure hmem)
  · intro v
    rw [hmessages, hshows.sent, ← h.event_iff v]
    cases item with
    | event v' => simp [StreamItem.event?]
    | failure failure => simp [List.filterMap_cons, StreamItem.event?]

end

/-- **A unary call has exactly one outcome.** If no slot fails, a unary call that returns has one
message or one failure and has made one request at most. It has made none exactly if it was refused,
and exactly if its failure is one of those with which calls are refused. It has a message exactly if
it has made its request and the transport has answered with a success and the JSON text of that
message. -/
theorem perform_unary [DecidableEq σ] (client : Client σ) (call : Call) (reply : Reply)
    (hshape : call.shape ≠ .stream) (hslots : client.NoSlotFails call reply)
    (hreturned : (client.perform call reply).ending = .returned) :
    OneOutcome client call reply (client.perform call reply).progress := by
  rcases opening client call with ⟨fault, h⟩ | ⟨failure, h⟩ | ⟨text, h⟩
  · rw [(h.shows reply).ending] at hreturned
    cases hreturned
  · exact oneOutcome_of_refuses h (h.shows hslots)
  · have hshows := h.shows hslots
    rw [hshows.ending] at hreturned
    obtain ⟨item, hitem, hyields⟩ := concluded_unary client hshape hreturned
    dsimp only at hshows
    rw [hitem] at hshows
    exact oneOutcome_of_yields hyields hshows

/-- The token is cancelled while the transport answers `null`, and slots connect others: the one
outcome is the message. -/
theorem perform_unary_null_cancelled_meanwhile :
    let client := growingClient "http://localhost:8080" (some (.int 5))
    let call : Call := { emptyCall .post with token := .fresh }
    let reply : Reply := ⟨⟨true, none, false⟩, 200, nullText, []⟩
    call.shape ≠ .stream ∧ client.NoSlotFails call reply ∧
      (client.perform call reply).ending = .returned ∧
      OneOutcome client call reply (client.perform call reply).progress ∧
      (client.perform call reply).progress.messages = [.null] := by
  have husable : isUsableBase "http://localhost:8080" = .ok true := rfl
  have htimed : timeoutFault? (.int 5) = none := rfl
  intro client call reply
  have hshape : call.shape ≠ .stream := by decide
  have hslots : client.NoSlotFails call reply := growingClient_noSlotFails _ _ call reply
  have hsends : client.Sends call "\x7b\x7d" :=
    growingClient_sends .post husable (by decide) htimed
  have hanswers : reply.Answers .null :=
    ⟨rfl, ⟨by decide, by decide⟩, readBytes_ok_iff.mp readBytes_nullText⟩
  have hturn : reply.action.turn = .goesOn := rfl
  clear_value client call reply
  have hshows := hsends.shows hslots
  have hreturned : (client.perform call reply).ending = .returned := by
    rw [hshows.ending, receptionOf_unary hshape, awaiting, hturn]
    rfl
  have hunary := perform_unary client call reply hshape hslots hreturned
  refine ⟨hshape, hslots, hreturned, hunary, (hunary.message_iff .null).mpr ⟨?_, hanswers⟩⟩
  rw [hshows.sent]
  exact List.cons_ne_nil _ _

end ConnectRpc.Call
