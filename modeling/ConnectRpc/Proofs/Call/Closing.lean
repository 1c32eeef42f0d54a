import ConnectRpc.Proofs.Call.Outcomes

/-!
# Streams are closed

A call that takes a stream as it arrives has to close it again, whatever comes between: the last
item, a refusal, a failure of the transport, a slot that fails, or the call's being given up. This
module proves that a stream that was opened is closed exactly once before its call ends, and that
nothing is closed which was not opened (`perform_stream_closed`).

Taking the answer closes nothing by itself (`Unclosed` is kept by every step of it), so the one
closing is that of `closingStream`, which comes behind it however it stopped. What may follow is the
report of a call that is given up, and nothing else (`Client.Sends.trace_run`).
-/

namespace ConnectRpc.Call

open Wire

variable {σ : Type}

/-! ## Nothing is closed -/

/-- Since the trace was `base`, no stream has been closed. -/
def Unclosed (base : List (Event σ)) (p : Progress σ) : Prop :=
  ∃ events, p.trace = base ++ events ∧ Event.streamClosed ∉ events

theorem Unclosed.add {base events : List (Event σ)} {p p' : Progress σ} (h : Unclosed base p)
    (htrace : p'.trace = p.trace ++ events) (hevents : Event.streamClosed ∉ events) :
    Unclosed base p' := by
  obtain ⟨before, hbefore, hopen⟩ := h
  refine ⟨before ++ events, ?_, ?_⟩
  · rw [htrace, hbefore, List.append_assoc]
  · exact List.not_mem_append hopen hevents

theorem Unclosed.send {base : List (Event σ)} {request : Request} :
    Sending (Unclosed base) (Unclosed base) request :=
  fun _ h => h.add rfl (by simp)

section

variable [DecidableEq σ]

theorem Unclosed.emit {base : List (Event σ)} {p : Progress σ} (h : Unclosed base p)
    (react : Behaviour σ) (target : Target) (item : StreamItem) :
    Unclosed base (emit react target item p).2 :=
  h.add (trace_emit react target item p) (by simp)

/-- Delivering what an answer brings closes nothing, whether slots fail or not. -/
theorem deliveryKeeps_unclosed (react : Behaviour σ) (base : List (Event σ)) (signalled : Bool) :
    DeliveryKeeps react (Unclosed base) (fun _ => Unclosed base) signalled where
  report failure p hp := by
    have hrecorded : Unclosed base { p with failures := p.failures ++ [failure] } := hp
    exact .of_both (hrecorded.emit react .failures (.failure failure))
  receive message p hp := by
    have hrecorded : Unclosed base { p with messages := p.messages ++ [message] } := hp
    cases signalled with
    | true => exact .of_both (hrecorded.emit react .messages (.event message))
    | false => exact .of_ok hrecorded
  cancelled _ hp := hp

end

/-! ## Exchanges over a stream -/

/-- The progress of a call whose request has just been sent and whose answer is there. -/
def Progress.answered (p : Progress σ) (call : Call) (reply : Reply) (request : Request) :
    Progress σ :=
  Progress.mark { p with trace := p.trace ++ [.sent request] }
    (reply.action.cancels && call.token != .absent)

theorem gains_answered (p : Progress σ) (call : Call) (reply : Reply) (request : Request) :
    Gains call.signalled [] [request] (reply.action.cancels && call.token != .absent) p
      (p.answered call reply request) := by
  have hgains := (@Gains.sending σ call.signalled request p).trans
    (.mark _ (reply.action.cancels && call.token != .absent))
  simp only [List.append_nil, Bool.false_or] at hgains
  exact hgains

theorem shape_of_via {client : Client σ} {call : Call} {text : String}
    (hvia : (requestOf client call text).via = .stream) : call.shape = .stream := by
  cases hshape : call.shape with
  | get => simp [requestOf, hshape] at hvia
  | post => simp [requestOf, hshape] at hvia
  | stream => rfl

section

variable [DecidableEq σ] {client : Client σ} {call : Call} {text : String}

/-- What an exchange over a stream comes to, by how the opening goes. -/
theorem exchange_streamed (hvia : (requestOf client call text).via = .stream) (reply : Reply)
    (p : Progress σ) :
    exchange client call reply (requestOf client call text) p =
      (match reply.action.turn with
        | .goesOn => closingStream (takeStream client call reply)
        | .fails reason => report client.react (.streamNotStarted reason)
        | .hangs => throw Stop.hang)
        (p.answered call reply (requestOf client call text)) := by
  have hexchange : exchange client call reply (requestOf client call text) =
      incremental client call reply (requestOf client call text) := by
    simp only [exchange, shape_of_via hvia, hvia]
  rw [hexchange, incremental, bind_apply, note_apply]
  dsimp only
  rw [bind_apply, act_apply]
  cases reply.action.turn with
  | goesOn => rfl
  | fails reason => rfl
  | hangs => rfl

/-- A stream that was opened is closed once, behind everything that taking its answer does. -/
theorem exchange_closes (hvia : (requestOf client call text).via = .stream) {reply : Reply}
    (hturn : reply.action.turn = .goesOn) (p : Progress σ) :
    ∃ taking, (exchange client call reply (requestOf client call text) p).2.trace =
        p.trace ++ .sent (requestOf client call text) :: taking ++ [.streamClosed] ∧
      .streamClosed ∉ taking := by
  generalize hstart : p.answered call reply (requestOf client call text) = start
  have htrace : start.trace = p.trace ++ [.sent (requestOf client call text)] := by
    rw [← hstart]
    rfl
  have hkeeps := (deliveryKeeps_unclosed client.react start.trace call.signalled).takeStream reply
  obtain ⟨taking, htaking, hopen⟩ := (hkeeps start ⟨[], by simp⟩).both
  refine ⟨taking, ?_, hopen⟩
  rw [exchange_streamed hvia, hturn, hstart]
  simp only [closingStream_apply, htaking, htrace, List.append_assoc, List.cons_append,
    List.nil_append]

/-- Without a stream that was opened, an exchange closes none. -/
theorem exchange_unclosed {reply : Reply}
    (h : ¬ ((requestOf client call text).via = .stream ∧ reply.action.turn = .goesOn)) :
    Keeps (Unclosed []) (fun _ => Unclosed [])
      (exchange client call reply (requestOf client call text)) := by
  have hkeeps := deliveryKeeps_unclosed client.react [] call.signalled
  cases hvia : (requestOf client call text).via with
  | stream =>
    intro p hp
    have hstart : Unclosed [] (p.answered call reply (requestOf client call text)) :=
      Unclosed.send p hp
    rw [exchange_streamed hvia]
    cases hturn : reply.action.turn with
    | goesOn => exact absurd ⟨hvia, hturn⟩ h
    | fails reason => exact hkeeps.report _ _ hstart
    | hangs => exact .of_hang hstart
  | request =>
    unfold exchange
    rw [hvia]
    split
    · next heq => cases heq
    · exact hkeeps.buffered Unclosed.send reply
    · exact hkeeps.unary Unclosed.send reply

end

/-! ## Giving up -/

/-- What a call that is given up shows last: its report, with the slots that this calls. -/
inductive Concludes (client : Client σ) (call : Call) : List (Event σ) → Prop
  /-- It is not given up. -/
  | ended : Concludes client call []
  | cancelled (slots : List σ) :
      Concludes client call (.emitted .failures (.failure .cancelled) ::
        slots.map fun slot => .called ⟨.failures, slot, .failure .cancelled⟩)
  | overdue {seconds : Value} (deadline : client.deadline? call = some seconds) (slots : List σ) :
      Concludes client call (.emitted .failures (.failure (.deadlineExceeded seconds)) ::
        slots.map fun slot => .called ⟨.failures, slot, .failure (.deadlineExceeded seconds)⟩)

theorem Concludes.unclosed {client : Client σ} {call : Call} {events : List (Event σ)}
    (h : Concludes client call events) : .streamClosed ∉ events := by
  cases h with
  | ended => simp
  | cancelled slots => simp
  | overdue deadline slots => simp

section

variable [DecidableEq σ] {client : Client σ} {call : Call} {text : String}

theorem giveUp_concludes (client : Client σ) (call : Call) (p : Progress σ) :
    ∃ events, (giveUp client (client.deadline? call) p).2.trace = p.trace ++ events ∧
      Concludes client call events := by
  rw [giveUp_apply]
  cases p.tokenCancelled with
  | true => exact ⟨_, trace_emit _ _ _ _, .cancelled _⟩
  | false =>
    cases hdeadline : client.deadline? call with
    | none => exact ⟨[], (List.append_nil _).symm, .ended⟩
    | some seconds => exact ⟨_, trace_emit _ _ _ _, .overdue hdeadline _⟩

/-- Behind its exchange a call shows at most that it is given up. -/
theorem Client.Sends.trace_run (h : client.Sends call text) (reply : Reply) :
    ∃ events, (client.perform call reply).progress.trace =
        (exchange client call reply (requestOf client call text)
          (.start client.listeners)).2.trace ++ events ∧
      Concludes client call events := by
  rw [perform_progress, h.run reply]
  generalize hexchange : exchange client call reply (requestOf client call text)
    (.start client.listeners) = last
  obtain ⟨result, q⟩ := last
  cases result with
  | ok a =>
    rw [tryCatch_of_ok (congrArg Prod.fst hexchange), hexchange]
    exact ⟨[], (List.append_nil _).symm, .ended⟩
  | error stop =>
    rw [tryCatch_of_error (congrArg Prod.fst hexchange), hexchange]
    cases stop with
    | fault fault => exact ⟨[], (List.append_nil _).symm, .ended⟩
    | hang => exact giveUp_concludes client call q

/-- A report may be ended by a slot that fails, but it never hangs. -/
theorem report_ne_hang (react : Behaviour σ) (failure : Failure) (p : Progress σ) :
    (report react failure p).1 ≠ .error .hang := by
  rw [report_apply, emit_apply]
  dsimp only
  split
  · simp
  · simp

/-! ## Calls -/

/-- The call sends its request over a stream, with the message `text`. -/
structure Client.Streams (client : Client σ) (call : Call) (text : String) : Prop extends
    client.Sends call text where
  via : (requestOf client call text).via = .stream

/-- The call gets as far as a stream that is opened for it. -/
def Client.Opens (client : Client σ) (call : Call) (reply : Reply) : Prop :=
  reply.action.turn = .goesOn ∧ ∃ text, client.Streams call text

/-- A call that opens no stream closes none. -/
theorem unclosed_of_not_opens {reply : Reply} (h : ¬ client.Opens call reply) :
    .streamClosed ∉ (client.perform call reply).progress.trace := by
  have hkeeps := deliveryKeeps_unclosed client.react [] call.signalled
  have hrun : Keeps (Unclosed []) (fun _ => Unclosed []) (client.run call reply) := by
    rcases opening client call with ⟨fault, hfaults⟩ | ⟨failure, hrefuses⟩ | ⟨text, hsends⟩
    · rw [hfaults.run reply]
      exact fun p hp => .of_both hp
    · rw [hrefuses.run reply]
      exact hkeeps.report failure
    · rw [hsends.run reply]
      refine Turns.tryCatch (exchange_unclosed ?_) (hkeeps.giveUp _) fun _ => rfl
      exact fun hopens => h ⟨hopens.2, text, hsends, hopens.1⟩
  obtain ⟨events, htrace, hopen⟩ := (hrun (.start client.listeners) ⟨[], rfl, by simp⟩).both
  rw [perform_progress, htrace]
  exact hopen

/-- A stream that cannot be opened is the one failure of its call, even if a slot fails at it. -/
theorem Client.Streams.tells_not_started (h : client.Streams call text) {reply : Reply}
    {reason : String} (hturn : reply.action.turn = .fails reason) :
    (client.perform call reply).progress.Tells call.signalled
      [.failure (.streamNotStarted reason)] := by
  have hexchange := exchange_streamed h.via reply (.start client.listeners)
  rw [hturn] at hexchange
  dsimp only at hexchange
  have hanswered := gains_answered (.start client.listeners) call reply (requestOf client call text)
  generalize Progress.answered (.start client.listeners) call reply
    (requestOf client call text) = p at hexchange hanswered
  have hgains := hanswered.trans
    (report_gains client.react p call.signalled (.streamNotStarted reason))
  have hprogress : (client.perform call reply).progress =
      (report client.react (.streamNotStarted reason) p).2 := by
    rw [perform_progress, h.run reply]
    cases hresult : (report client.react (.streamNotStarted reason) p).1 with
    | ok a =>
      rw [tryCatch_of_ok (by rw [hexchange]; exact hresult), hexchange]
    | error stop =>
      rw [tryCatch_of_error (by rw [hexchange]; exact hresult), hexchange]
      cases stop with
      | fault fault => rfl
      | hang => exact absurd hresult (report_ne_hang _ _ _)
  rw [hprogress]
  exact hgains.tells

/-- **An opened stream is closed exactly once.** Behind its request, a call that opens a stream
takes the answer, closes the stream and shows at most that it is given up; so it does before it
returns or an exception escapes, whatever the script brings and whichever slots fail. A call for
which no stream is opened closes none. Where the opening fails, that is the one failure which is
recorded. -/
theorem perform_stream_closed (client : Client σ) (call : Call) (reply : Reply) :
    let outcome := client.perform call reply
    (client.Opens call reply → outcome.ending ≠ .pending →
      ∃ request taking concluding,
        outcome.progress.trace = .sent request :: taking ++ .streamClosed :: concluding ∧
        .streamClosed ∉ taking ∧ .streamClosed ∉ concluding ∧
        Concludes client call concluding) ∧
    (¬ client.Opens call reply → .streamClosed ∉ outcome.progress.trace) ∧
    (∀ text reason, client.Streams call text → reply.action.turn = .fails reason →
      outcome.progress.failures = [.streamNotStarted reason] ∧
      outcome.progress.failures.map Failure.message = ["Failed to start stream: " ++ reason] ∧
      outcome.progress.messages = [] ∧ .streamClosed ∉ outcome.progress.trace) := by
  intro outcome
  refine ⟨?_, unclosed_of_not_opens, fun text reason h hturn => ?_⟩
  · rintro ⟨hturn, text, h⟩ -
    obtain ⟨concluding, htrace, hconcludes⟩ := h.trace_run reply
    obtain ⟨taking, htaking, hopen⟩ := exchange_closes h.via hturn (.start client.listeners)
    refine ⟨requestOf client call text, taking, concluding, ?_, hopen, hconcludes.unclosed,
      hconcludes⟩
    rw [show outcome.progress.trace = _ from htrace, htaking]
    simp [Progress.start]
  · have htells := h.tells_not_started hturn
    have hclosed : ¬ client.Opens call reply := by
      rintro ⟨hopens, -⟩
      rw [hturn] at hopens
      cases hopens
    have hfailures : outcome.progress.failures = [.streamNotStarted reason] := htells.failures
    refine ⟨hfailures, ?_, htells.messages, unclosed_of_not_opens hclosed⟩
    rw [hfailures]
    rfl

end

theorem failingClient_streams {baseUrl : String} (husable : isUsableBase baseUrl = .ok true) :
    (failingClient baseUrl none).Streams (emptyCall .stream) "\x7b\x7d" where
  usable := husable
  written := rfl
  taken _ := by decide
  uncancelled := by decide
  timed := rfl
  via := rfl

/-- A slot fails at the second list of a stream, and the exception escapes; the stream has been
closed before that, once. -/
theorem perform_stream_closed_failing_slot :
    let client := failingClient "http://localhost:8080" none
    let call := emptyCall .stream
    let reply : Reply := ⟨.none, 200, [], [⟨.none, some twoLists⟩]⟩
    (client.perform call reply).ending = .raised (.slot (.raised "slot")) ∧
      ∃ request taking concluding,
        (client.perform call reply).progress.trace =
          .sent request :: taking ++ .streamClosed :: concluding ∧
        .streamClosed ∉ taking ∧ .streamClosed ∉ concluding ∧
        Concludes client call concluding := by
  have husable : isUsableBase "http://localhost:8080" = .ok true := rfl
  intro client call reply
  have hending : (client.perform call reply).ending = .raised (.slot (.raised "slot")) := by
    decide +kernel
  have hopens : client.Opens call reply := ⟨rfl, _, failingClient_streams husable⟩
  clear_value client call reply
  refine ⟨hending, (perform_stream_closed client call reply).1 hopens ?_⟩
  simp [hending]

end ConnectRpc.Call
