import ConnectRpc.Proofs.Call.Run

/-!
# Deadlines and tokens that are not needed

A transport that never hangs leaves nothing to a deadline or a token to end: the outcome of a call
is the same whatever deadline can be counted and whatever token is given that is not cancelled
beforehand, or with neither of the two (`untimed_perform`). The slots may do anything, fail
included, and the script may cancel the token under way.

Two runs that differ in deadline and token are compared step by step. `SameButToken` is what they
have in common; they agree on it and neither hangs, which is the relation `Untimed` between
stretches. Handlers are reached by slots' failures only, and these they pass on.
-/

namespace ConnectRpc.Call

open Wire

variable {σ α β : Type}

/-- The transport never hangs. -/
structure Reply.NeverHangs (reply : Reply) : Prop where
  opening : reply.action.turn ≠ .hangs
  chunks : ∀ chunk ∈ reply.chunks, chunk.action.turn ≠ .hangs

/-- The client with another deadline, or none. -/
def Client.retimed (client : Client σ) (timeout : Option Value) : Client σ :=
  { client with config := { client.config with timeout } }

/-- The call with another deadline and another token, or without them. -/
def retimed (call : Call) (timeout : Option Value) (token : Token) : Call :=
  { call with timeout, token }

/-- The two are the same but for whether the token has been cancelled. -/
def SameButToken (p q : Progress σ) : Prop :=
  ∃ cancelled, q = { p with tokenCancelled := cancelled }

/-- The stretches do the same, but for cancelling the token, and do not hang. -/
abbrev Untimed (r s : Run σ α) : Prop := Agree SameButToken (fun stop => stop ≠ .hang) r s

theorem sameButToken_keptByEmission :
    KeptByEmission (SameButToken : Progress σ → Progress σ → Prop) where
  listeners := by rintro p _ ⟨cancelled, rfl⟩; rfl
  slotCalls := by rintro p _ ⟨cancelled, rfl⟩; rfl
  emission := by rintro p _ ⟨cancelled, rfl⟩ listeners events; exact ⟨cancelled, rfl⟩
  message := by rintro p _ ⟨cancelled, rfl⟩ message; exact ⟨cancelled, rfl⟩
  failure := by rintro p _ ⟨cancelled, rfl⟩ failure; exact ⟨cancelled, rfl⟩

/-! ## Stretches -/

theorem untimed_note (event : Event σ) : Untimed (note event) (note event) := by
  rintro p _ ⟨cancelled, rfl⟩
  exact ⟨rfl, by simp [note_apply], cancelled, rfl⟩

theorem Untimed.closingStream {body body' : Run σ Unit} (h : Untimed body body') :
    Untimed (closingStream body) (closingStream body') := by
  intro p q hpq
  obtain ⟨hresult, hstops, cancelled, hend⟩ := h p q hpq
  rw [closingStream_apply, closingStream_apply, hend]
  exact ⟨hresult, hstops, cancelled, rfl⟩

theorem untimed_act {action : Action} (h : action.turn ≠ .hangs) (token token' : Token) :
    Untimed (act token action : Run σ (Option String)) (act token' action) := by
  rintro p _ ⟨cancelled, rfl⟩
  rw [act_apply, act_apply]
  refine ⟨rfl, fun stop hstop => ?_, _, rfl⟩
  cases hturn : action.turn with
  | goesOn => rw [hturn] at hstop; cases hstop
  | fails reason => rw [hturn] at hstop; cases hstop
  | hangs => exact absurd hturn h

/-- Where a call waits, it goes on behind a failure of the transport or without one. -/
theorem untimed_awaiting {action : Action} (h : action.turn ≠ .hangs) (token token' : Token)
    {f g : Option String → Run σ α} (hfails : ∀ reason, Untimed (f (some reason)) (g (some reason)))
    (hgoesOn : Untimed (f none) (g none)) :
    Untimed (act token action >>= f) (act token' action >>= g) := by
  refine (untimed_act h token token').bind fun failed => ?_
  cases failed with
  | some reason => exact hfails reason
  | none => exact hgoesOn

theorem untimed_joinChunks (token token' : Token) {chunks : List Chunk}
    (h : ∀ chunk ∈ chunks, chunk.action.turn ≠ .hangs) :
    Untimed (joinChunks token chunks : Run σ (Option Bytes)) (joinChunks token' chunks) := by
  induction chunks with
  | nil => exact agree_pure _
  | cons chunk rest ih =>
    obtain ⟨hchunk, hrest⟩ := List.forall_mem_cons.mp h
    exact untimed_awaiting hchunk token token' (fun _ => agree_pure _)
      ((ih hrest).bind fun _ => agree_pure _)

section

variable [DecidableEq σ] (client : Client σ) (call : Call) (timeout timeout' : Option Value)
  (token : Token)

theorem untimed_report (failure : Failure) :
    Untimed (report client.react failure) (report client.react failure) :=
  agree_report sameButToken_keptByEmission (by simp) client.react failure

theorem untimed_deliver (items : List StreamItem) :
    Untimed (deliver client.react call.signalled items)
      (deliver client.react call.signalled items) :=
  agree_deliver sameButToken_keptByEmission (by simp) client.react call.signalled items

theorem untimed_readChunks (parser : StreamParser) {chunks : List Chunk}
    (h : ∀ chunk ∈ chunks, chunk.action.turn ≠ .hangs) :
    Untimed (readChunks client call parser chunks)
      (readChunks (client.retimed timeout) (call.retimed timeout' token) parser chunks) := by
  induction chunks generalizing parser with
  | nil => exact untimed_deliver client call _
  | cons chunk rest ih =>
    obtain ⟨hchunk, hrest⟩ := List.forall_mem_cons.mp h
    unfold readChunks
    split
    · exact untimed_deliver client call _
    · refine untimed_awaiting hchunk call.token token (fun _ => untimed_report client _) ?_
      cases chunk.data with
      | none => exact ih parser hrest
      | some data => exact (untimed_deliver client call _).bind fun _ => ih _ hrest

variable {reply : Reply} (h : reply.NeverHangs) (request : Request)

include h

theorem untimed_unary :
    Untimed (unary client call reply request)
      (unary (client.retimed timeout) (call.retimed timeout' token) reply request) := by
  refine (untimed_note _).bind fun _ =>
    untimed_awaiting h.opening call.token token (fun _ => untimed_report client _) ?_
  dsimp only
  split
  · cases Json.readBytes reply.body with
    | ok message =>
      exact agree_receive sameButToken_keptByEmission (by simp) client.react _ message
    | error e => exact untimed_report client _
  · exact untimed_report client _

theorem untimed_buffered :
    Untimed (buffered client call reply request)
      (buffered (client.retimed timeout) (call.retimed timeout' token) reply request) := by
  refine (untimed_note _).bind fun _ =>
    untimed_awaiting h.opening call.token token (fun _ => untimed_report client _) ?_
  dsimp only
  split
  · exact untimed_deliver client call _
  · exact untimed_report client _

theorem untimed_incremental :
    Untimed (incremental client call reply request)
      (incremental (client.retimed timeout) (call.retimed timeout' token) reply request) := by
  refine (untimed_note _).bind fun _ => untimed_awaiting h.opening call.token token
    (fun _ => untimed_report client _) (Untimed.closingStream ?_)
  split
  · exact untimed_readChunks client call timeout timeout' token _ h.chunks
  · exact (untimed_joinChunks call.token token h.chunks).bind fun _ => untimed_report client _

theorem untimed_exchange :
    Untimed (exchange client call reply request)
      (exchange (client.retimed timeout) (call.retimed timeout' token) reply request) := by
  unfold exchange
  simp only [retimed]
  split
  · exact untimed_incremental client call timeout timeout' token h request
  · exact untimed_buffered client call timeout timeout' token h request
  · exact untimed_unary client call timeout timeout' token h request

end

/-! ## Calls -/

section

variable [DecidableEq σ]

/-- The deadline, if there is one, can be counted, and the token is not cancelled beforehand. -/
structure Acceptable (deadline? : Option Value) (token : Token) : Prop where
  timed : deadline?.bind timeoutFault? = none
  uncancelled : token ≠ .cancelled

theorem untimed_supervise {client client' : Client σ} {deadline? deadline?' : Option Value}
    {token token' : Token} (h : Acceptable deadline? token) (h' : Acceptable deadline?' token')
    {body body' : Run σ Unit} (hbody : Untimed body body') :
    Untimed (supervise client deadline? token body)
      (supervise client' deadline?' token' body') := by
  simp only [supervise, if_neg h.uncancelled, if_neg h'.uncancelled, h.timed, h'.timed]
  refine hbody.tryCatch fun stop hstop => ?_
  cases stop with
  | hang => exact absurd rfl hstop
  | fault fault => exact agree_throw (by simp)

variable {client : Client σ} {call : Call} {reply : Reply}

theorem untimed_run {timeout timeout' : Option Value} {token : Token} (hreply : reply.NeverHangs)
    (h : Acceptable (call.timeout <|> client.config.timeout) call.token)
    (h' : Acceptable (timeout' <|> timeout) token) :
    Untimed (client.run call reply)
      ((client.retimed timeout).run (call.retimed timeout' token) reply) := by
  unfold Client.run
  simp only [Client.retimed, retimed]
  cases isUsableBase client.config.baseUrl with
  | error fault => exact agree_throw (by simp)
  | ok usable =>
    cases usable with
    | false => exact untimed_report client _
    | true =>
      cases Json.write call.data with
      | error e =>
        cases e with
        | refused reason => exact untimed_report client _
        | halved => exact agree_throw (by simp)
      | ok text =>
        show Untimed (if call.shape.Takes text then _ else _)
          (if call.shape.Takes text then _ else _)
        split
        · exact untimed_supervise h h'
            (untimed_exchange client call timeout timeout' token hreply _)
        · exact agree_throw (by simp)

/-- **Deadlines and tokens that are not needed make no difference.** If the transport never hangs, a
call ends, and with another deadline and another token, or without them, it ends the same and leaves
the same records, the same trace and the same slots. -/
theorem untimed_perform {timeout timeout' : Option Value} {token : Token}
    (hreply : reply.NeverHangs) (h : Acceptable (call.timeout <|> client.config.timeout) call.token)
    (h' : Acceptable (timeout' <|> timeout) token) :
    (client.perform call reply).ending ≠ .pending ∧
      (client.perform call reply).ending =
        ((client.retimed timeout).perform (call.retimed timeout' token) reply).ending ∧
      SameButToken (client.perform call reply).progress
        ((client.retimed timeout).perform (call.retimed timeout' token) reply).progress := by
  obtain ⟨hresult, hstops, hend⟩ :=
    untimed_run hreply h h' (.start client.listeners) (.start client.listeners) ⟨false, rfl⟩
  simp only [perform_ending, perform_progress]
  refine ⟨?_, congrArg Ending.of hresult, hend⟩
  cases hr : (client.run call reply (.start client.listeners)).1 with
  | ok _ => simp [Ending.of]
  | error stop =>
    cases stop with
    | fault fault => simp [Ending.of]
    | hang => exact absurd rfl (hstops _ hr)

end

end ConnectRpc.Call
