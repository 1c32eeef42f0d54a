import ConnectRpc.Call.Client
import ConnectRpc.Proofs.Call.Script

/-!
# Stretches of a call

A stretch of a call takes the progress so far to a result and further progress. The equations here
say what the small stretches do with the progress that they are given, so that proofs about whole
calls need not open the monad.

`Agree R` relates two stretches that, started where the relation `R` holds, have the same result and
end where it holds. It is kept by sequencing and by handlers, and a stretch that emits agrees with
itself if `R` compares what slots depend on, the registrations and the slot calls before
(`KeptByEmission`).

`Alike` is one such relation between stretches: nobody but the transport can tell them apart.
Started with the same listeners, the same messages and failures, and the same emissions and slot
calls behind them, they have the same result and leave all of that the same. What was sent and which
streams were closed may differ.
-/

namespace ConnectRpc.Call

open Wire

variable {σ α β : Type}

/-! ## Equations -/

theorem bind_apply (r : Run σ α) (f : α → Run σ β) (p : Progress σ) :
    (r >>= f) p =
      match r p with
      | (.ok a, p') => f a p'
      | (.error stop, p') => (.error stop, p') := by
  show (ExceptT.bindCont f (r p).1) (r p).2 = _
  cases h : r p with
  | mk result p' => cases result <;> rfl

theorem get_apply (p : Progress σ) : (get : Run σ (Progress σ)) p = (.ok p, p) := rfl

theorem tryCatch_apply (r : Run σ α) (handle : Stop → Run σ α) (p : Progress σ) :
    tryCatch r handle p =
      match r p with
      | (.ok a, p') => (.ok a, p')
      | (.error stop, p') => handle stop p' := by
  simp only [tryCatch, tryCatchThe, MonadExceptOf.tryCatch, ExceptT.tryCatch, ExceptT.mk, bind,
    StateT.bind]
  cases r p with
  | mk result p' => cases result <;> rfl

theorem note_apply (event : Event σ) (p : Progress σ) :
    note event p = (.ok (), { p with trace := p.trace ++ [event] }) := rfl

theorem closingStream_apply (body : Run σ Unit) (p : Progress σ) :
    closingStream body p =
      ((body p).1, { (body p).2 with trace := (body p).2.trace ++ [.streamClosed] }) := rfl

/-- The token is cancelled if it is to be. -/
def Progress.mark (p : Progress σ) (cancels : Bool) : Progress σ :=
  { p with tokenCancelled := p.tokenCancelled || cancels }

theorem Progress.mark_false (p : Progress σ) : p.mark false = p := by
  simp only [mark, Bool.or_false]

theorem Progress.mark_mark (p : Progress σ) (a b : Bool) : (p.mark a).mark b = p.mark (a || b) := by
  simp only [mark, Bool.or_assoc]

theorem act_apply (token : Token) (action : Action) (p : Progress σ) :
    act token action p =
      (match action.turn with
        | .goesOn => .ok none
        | .fails reason => .ok (some reason)
        | .hangs => .error .hang,
        p.mark (action.cancels && token != .absent)) := by
  unfold act Action.turn Progress.mark
  cases action.cancels && token != .absent with
  | true =>
    rw [Bool.or_true]
    cases action.failure with
    | some reason => rfl
    | none => cases action.hangs <;> rfl
  | false =>
    rw [Bool.or_false]
    cases action.failure with
    | some reason => rfl
    | none => cases action.hangs <;> rfl

/-- Where nothing happens a call goes on. -/
theorem act_none (token : Token) : act token Action.none = (pure none : Run σ (Option String)) :=
  rfl

theorem emit_apply [DecidableEq σ] (react : Behaviour σ) (target : Target) (item : StreamItem)
    (p : Progress σ) :
    emit react target item p =
      let emission := p.listeners.emit react (p.trace.filterMap Event.slotCall?) target item
      (match emission.fault with
        | none => .ok ()
        | some fault => .error (.fault (.slot fault)),
        { p with
          listeners := emission.state
          trace := p.trace ++ Event.emitted target item ::
            emission.called.map fun slot => Event.called ⟨target, slot, item⟩ }) := by
  simp only [emit, bind_apply]
  show (match (p.listeners.emit react (p.trace.filterMap Event.slotCall?) target item).fault with
    | none => _ | some _ => _ : Run σ Unit) _ = _
  cases (p.listeners.emit react (p.trace.filterMap Event.slotCall?) target item).fault with
  | none => rfl
  | some fault => rfl

/-- An emission leaves itself in the trace, then its slot calls. -/
theorem trace_emit [DecidableEq σ] (react : Behaviour σ) (target : Target) (item : StreamItem)
    (p : Progress σ) :
    (emit react target item p).2.trace = p.trace ++ Event.emitted target item ::
      (p.listeners.emit react (p.trace.filterMap Event.slotCall?) target item).called.map
        fun slot => Event.called ⟨target, slot, item⟩ := by
  rw [emit_apply]

theorem report_apply [DecidableEq σ] (react : Behaviour σ) (failure : Failure) (p : Progress σ) :
    report react failure p =
      emit react .failures (.failure failure) { p with failures := p.failures ++ [failure] } := rfl

theorem receive_signalled [DecidableEq σ] (react : Behaviour σ) (message : Value)
    (p : Progress σ) :
    receive react true message p =
      emit react .messages (.event message) { p with messages := p.messages ++ [message] } := rfl

theorem receive_unsignalled [DecidableEq σ] (react : Behaviour σ) (message : Value)
    (p : Progress σ) :
    receive react false message p = (.ok (), { p with messages := p.messages ++ [message] }) := rfl

theorem perform_ending [DecidableEq σ] (client : Client σ) (call : Call) (reply : Reply) :
    (client.perform call reply).ending =
      .of (client.run call reply (.start client.listeners)).1 := by
  unfold Client.perform
  dsimp only

theorem perform_progress [DecidableEq σ] (client : Client σ) (call : Call) (reply : Reply) :
    (client.perform call reply).progress =
      (client.run call reply (.start client.listeners)).2 := by
  unfold Client.perform
  dsimp only

/-! ## Agreeing stretches -/

/-- Started where `R` holds, the stretches have the same result and end where `R` holds. If they
stop early, it is for a reason that `stops` admits. -/
def Agree (R : Progress σ → Progress σ → Prop) (stops : Stop → Prop) (r s : Run σ α) : Prop :=
  ∀ p q, R p q →
    (r p).1 = (s q).1 ∧ (∀ stop, (r p).1 = .error stop → stops stop) ∧ R (r p).2 (s q).2

section

variable {R : Progress σ → Progress σ → Prop} {stops stops' : Stop → Prop}

theorem agree_pure (a : α) : Agree R stops (pure a : Run σ α) (pure a) :=
  fun _ _ h => ⟨rfl, nofun, h⟩

theorem agree_throw {stop : Stop} (h : stops stop) :
    Agree R stops (throw stop : Run σ α) (throw stop) :=
  fun _ _ hpq => ⟨rfl, fun stop' hstop' => by cases hstop'; exact h, hpq⟩

theorem Agree.bind {r s : Run σ α} {f g : α → Run σ β} (h : Agree R stops r s)
    (hfg : ∀ a, Agree R stops (f a) (g a)) : Agree R stops (r >>= f) (s >>= g) := by
  intro p q hpq
  obtain ⟨hresult, hstops, hend⟩ := h p q hpq
  rw [bind_apply, bind_apply]
  cases hr : r p with
  | mk result p' =>
    cases hs : s q with
    | mk result' q' =>
      rw [hr, hs] at hresult hend
      rw [hr] at hstops
      obtain rfl : result = result' := hresult
      cases result with
      | ok a => exact hfg a p' q' hend
      | error stop =>
        refine ⟨rfl, fun stop' hstop' => hstops stop' ?_, hend⟩
        cases hstop'
        rfl

theorem Agree.tryCatch {r s : Run σ α} {handle handle' : Stop → Run σ α} (h : Agree R stops r s)
    (hhandle : ∀ stop, stops stop → Agree R stops' (handle stop) (handle' stop)) :
    Agree R stops' (tryCatch r handle) (tryCatch s handle') := by
  intro p q hpq
  obtain ⟨hresult, hstops, hend⟩ := h p q hpq
  rw [tryCatch_apply, tryCatch_apply]
  cases hr : r p with
  | mk result p' =>
    cases hs : s q with
    | mk result' q' =>
      rw [hr, hs] at hresult hend
      rw [hr] at hstops
      obtain rfl : result = result' := hresult
      cases result with
      | ok a => exact ⟨rfl, by simp, hend⟩
      | error stop => exact hhandle stop (hstops stop rfl) p' q' hend

/-- The relation compares what slots depend on, and what an emission or a record adds to both sides
keeps it. -/
structure KeptByEmission (R : Progress σ → Progress σ → Prop) : Prop where
  listeners : ∀ {p q}, R p q → p.listeners = q.listeners
  slotCalls : ∀ {p q}, R p q →
    p.trace.filterMap Event.slotCall? = q.trace.filterMap Event.slotCall?
  emission : ∀ {p q}, R p q → ∀ listeners events,
    R { p with listeners, trace := p.trace ++ events }
      { q with listeners, trace := q.trace ++ events }
  message : ∀ {p q}, R p q → ∀ message,
    R { p with messages := p.messages ++ [message] } { q with messages := q.messages ++ [message] }
  failure : ∀ {p q}, R p q → ∀ failure,
    R { p with failures := p.failures ++ [failure] } { q with failures := q.failures ++ [failure] }

variable [DecidableEq σ] (h : KeptByEmission R) (hstops : ∀ fault, stops (.fault (.slot fault)))
  (react : Behaviour σ)

include h hstops

theorem agree_emit (target : Target) (item : StreamItem) :
    Agree R stops (emit react target item) (emit react target item) := by
  intro p q hpq
  rw [emit_apply, emit_apply, h.listeners hpq, h.slotCalls hpq]
  refine ⟨rfl, fun stop hstop => ?_, h.emission hpq _ _⟩
  dsimp only at hstop
  split at hstop
  · cases hstop
  · cases hstop
    exact hstops _

theorem agree_report (failure : Failure) :
    Agree R stops (report react failure) (report react failure) :=
  fun _ _ hpq => agree_emit h hstops react _ _ _ _ (h.failure hpq failure)

theorem agree_receive (signalled : Bool) (message : Value) :
    Agree R stops (receive react signalled message) (receive react signalled message) := by
  intro p q hpq
  cases signalled with
  | true => exact agree_emit h hstops react _ _ _ _ (h.message hpq message)
  | false => exact ⟨rfl, by simp [receive_unsignalled], h.message hpq message⟩

theorem agree_deliver (signalled : Bool) :
    ∀ items, Agree R stops (deliver react signalled items) (deliver react signalled items)
  | [] => agree_pure ()
  | .event message :: rest =>
      (agree_receive h hstops react signalled message).bind fun _ => agree_deliver signalled rest
  | .failure failure :: rest =>
      (agree_report h hstops react failure).bind fun _ => agree_deliver signalled rest

end

/-! ## What slots and results show -/

/-- The event is one that slots take part in. -/
def Event.isSeen : Event σ → Bool
  | .emitted _ _ => true
  | .called _ => true
  | _ => false

/-- Progress without the events of the transport. -/
def Progress.seen (p : Progress σ) : Progress σ := { p with trace := p.trace.filter Event.isSeen }

theorem filterMap_slotCall?_filter (trace : List (Event σ)) :
    (trace.filter Event.isSeen).filterMap Event.slotCall? = trace.filterMap Event.slotCall? := by
  induction trace with
  | nil => rfl
  | cons event rest ih =>
    cases event with
    | sent request => exact ih
    | emitted target item => exact ih
    | called call => exact congrArg (call :: ·) ih
    | streamClosed => exact ih

/-- The stretches do the same to everything but the transport. -/
def Alike (r s : Run σ α) : Prop :=
  ∀ p q : Progress σ, p.seen = q.seen → (r p).1 = (s q).1 ∧ (r p).2.seen = (s q).2.seen

theorem seen_eq_iff {p q : Progress σ} :
    p.seen = q.seen ↔ p.listeners = q.listeners ∧ p.messages = q.messages ∧
      p.failures = q.failures ∧ p.trace.filter Event.isSeen = q.trace.filter Event.isSeen ∧
      p.tokenCancelled = q.tokenCancelled := by
  simp only [Progress.seen, Progress.mk.injEq]

theorem alike_iff {r s : Run σ α} :
    Alike r s ↔ Agree (fun p q => p.seen = q.seen) (fun _ => True) r s :=
  ⟨fun h p q hpq => ⟨(h p q hpq).1, fun _ _ => trivial, (h p q hpq).2⟩,
    fun h p q hpq => ⟨(h p q hpq).1, (h p q hpq).2.2⟩⟩

theorem Alike.symm {r s : Run σ α} (h : Alike r s) : Alike s r := fun p q hpq =>
  ⟨(h q p hpq.symm).1.symm, (h q p hpq.symm).2.symm⟩

theorem Alike.trans {r s t : Run σ α} (h : Alike r s) (h' : Alike s t) : Alike r t :=
  fun p q hpq => ⟨(h p q hpq).1.trans (h' q q rfl).1, (h p q hpq).2.trans (h' q q rfl).2⟩

theorem Alike.tryCatch {r s : Run σ α} {handle handle' : Stop → Run σ α} (h : Alike r s)
    (hhandle : ∀ stop, Alike (handle stop) (handle' stop)) :
    Alike (tryCatch r handle) (tryCatch s handle') :=
  alike_iff.mpr ((alike_iff.mp h).tryCatch fun stop _ => alike_iff.mp (hhandle stop))

theorem alike_throw (stop : Stop) : Alike (throw stop : Run σ α) (throw stop) :=
  alike_iff.mpr (agree_throw trivial)

theorem seen_concat (p : Progress σ) {event : Event σ} (he : event.isSeen = false) :
    Progress.seen { p with trace := p.trace ++ [event] } = p.seen := by
  simp only [Progress.seen, List.filter_append, List.filter_cons, he, Bool.false_eq_true, if_false,
    List.filter_nil, List.append_nil]

/-- What the transport notes makes no difference. -/
theorem Alike.note_left {r s : Run σ α} {event : Event σ} (he : event.isSeen = false)
    (h : Alike r s) : Alike (note event >>= fun _ => r) s := by
  intro p q hpq
  rw [bind_apply, note_apply]
  exact h _ q ((seen_concat p he).trans hpq)

/-- Closing a stream makes no difference. -/
theorem Alike.closingStream_left {r s : Run σ Unit} (h : Alike r s) :
    Alike (closingStream r) s := by
  intro p q hpq
  obtain ⟨hresult, hseen⟩ := h p q hpq
  rw [closingStream_apply]
  exact ⟨hresult, (seen_concat _ rfl).trans hseen⟩

theorem seen_keptByEmission : KeptByEmission fun p q : Progress σ => p.seen = q.seen where
  listeners hpq := (seen_eq_iff.mp hpq).1
  slotCalls hpq := by
    rw [← filterMap_slotCall?_filter, (seen_eq_iff.mp hpq).2.2.2.1, filterMap_slotCall?_filter]
  emission hpq listeners events := by
    obtain ⟨-, hmessages, hfailures, htrace, htoken⟩ := seen_eq_iff.mp hpq
    exact seen_eq_iff.mpr ⟨rfl, hmessages, hfailures, by simp only [List.filter_append, htrace],
      htoken⟩
  message hpq message := by
    obtain ⟨hlisteners, hmessages, hfailures, htrace, htoken⟩ := seen_eq_iff.mp hpq
    exact seen_eq_iff.mpr
      ⟨hlisteners, congrArg (· ++ [message]) hmessages, hfailures, htrace, htoken⟩
  failure hpq failure := by
    obtain ⟨hlisteners, hmessages, hfailures, htrace, htoken⟩ := seen_eq_iff.mp hpq
    exact seen_eq_iff.mpr
      ⟨hlisteners, hmessages, congrArg (· ++ [failure]) hfailures, htrace, htoken⟩

section

variable [DecidableEq σ] (react : Behaviour σ)

theorem alike_report (failure : Failure) : Alike (report react failure) (report react failure) :=
  alike_iff.mpr (agree_report seen_keptByEmission (fun _ => trivial) react failure)

theorem alike_deliver (signalled : Bool) (items : List StreamItem) :
    Alike (deliver react signalled items) (deliver react signalled items) :=
  alike_iff.mpr (agree_deliver seen_keptByEmission (fun _ => trivial) react signalled items)

theorem alike_giveUp (client : Client σ) (timeout : Option Value) :
    Alike (giveUp client timeout) (giveUp client timeout) := by
  intro p q hpq
  have htoken := (seen_eq_iff.mp hpq).2.2.2.2
  simp only [giveUp, bind_apply, get_apply, htoken]
  split
  · exact alike_report client.react _ p q hpq
  · cases timeout with
    | some seconds => exact alike_report client.react _ p q hpq
    | none => exact alike_throw _ p q hpq

end

end ConnectRpc.Call
