import ConnectRpc.Proofs.Call.Steps

/-!
# The account of a call

A call keeps three records of the same thing: the messages and the failures in its result, and what
it emits on its signals. They are read here off one list of items, in the order in which they came
(`Progress.Tells`): the messages are its events, the failures its failures, and the emissions its
items, but for messages of a call that has no signal for them.

`Gains` is the same for a stretch: what it adds to the records, with the requests that it sends and
whether it cancels the token. Stretches that follow each other add up (`Gains.trans`). Each step of
a call has such an account, even one that a slot's failure ends, and so has every call
(`perform_tells`).
-/

namespace ConnectRpc

namespace Wire

/-- The message that an item is. -/
def StreamItem.event? : StreamItem → Option Value
  | .event v => some v
  | .failure _ => none

/-- The failure that an item is. -/
def StreamItem.failure? : StreamItem → Option Failure
  | .event _ => none
  | .failure f => some f

end Wire

namespace Call

open Wire

variable {σ : Type}

/-! ## Reading a trace -/

/-- The emission that an event is. -/
def Event.emission? : Event σ → Option (Target × StreamItem)
  | .emitted target item => some (target, item)
  | _ => none

/-- The request that an event is. -/
def Event.request? : Event σ → Option Request
  | .sent request => some request
  | _ => none

namespace Progress

/-- What was emitted, and on which signal. -/
def emitted (p : Progress σ) : List (Target × StreamItem) := p.trace.filterMap Event.emission?

/-- What was sent. -/
def sent (p : Progress σ) : List Request := p.trace.filterMap Event.request?

/-- The slots that were called. -/
def slotCalls (p : Progress σ) : List (SlotCall σ) := p.trace.filterMap Event.slotCall?

/-- What was emitted on one of the signals. -/
def emittedOn (p : Progress σ) (target : Target) : List StreamItem :=
  (p.emitted.filter (·.1 = target)).map (·.2)

end Progress

/-- The emission of an item. A call without a signal for messages does not emit them. -/
def emissionOf (signalled : Bool) : StreamItem → Option (Target × StreamItem)
  | .event v => if signalled then some (.messages, .event v) else none
  | .failure f => some (.failures, .failure f)

/-! ## Accounts -/

/-- The records of a call are those of the items. -/
structure Progress.Tells (p : Progress σ) (signalled : Bool) (items : List StreamItem) :
    Prop where
  messages : p.messages = items.filterMap StreamItem.event?
  failures : p.failures = items.filterMap StreamItem.failure?
  emitted : p.emitted = items.filterMap (emissionOf signalled)

/-- What a stretch that leads from `p` to `p'` adds. -/
structure Gains (signalled : Bool) (items : List StreamItem) (sent : List Request)
    (cancels : Bool) (p p' : Progress σ) : Prop where
  messages : p'.messages = p.messages ++ items.filterMap StreamItem.event?
  failures : p'.failures = p.failures ++ items.filterMap StreamItem.failure?
  emitted : p'.emitted = p.emitted ++ items.filterMap (emissionOf signalled)
  sent : p'.sent = p.sent ++ sent
  tokenCancelled : p'.tokenCancelled = (p.tokenCancelled || cancels)

namespace Gains

variable {signalled cancels cancels' : Bool} {items items' : List StreamItem}
  {requests requests' : List Request} {p q r : Progress σ}

theorem refl (p : Progress σ) : Gains signalled [] [] false p p := by
  constructor <;> simp

theorem trans (h : Gains signalled items requests cancels p q)
    (h' : Gains signalled items' requests' cancels' q r) :
    Gains signalled (items ++ items') (requests ++ requests') (cancels || cancels') p r where
  messages := by rw [h'.messages, h.messages, List.filterMap_append, List.append_assoc]
  failures := by rw [h'.failures, h.failures, List.filterMap_append, List.append_assoc]
  emitted := by rw [h'.emitted, h.emitted, List.filterMap_append, List.append_assoc]
  sent := by rw [h'.sent, h.sent, List.append_assoc]
  tokenCancelled := by rw [h'.tokenCancelled, h.tokenCancelled, Bool.or_assoc]

/-- The account of a call from its start. -/
theorem tells {l : Listeners σ} (h : Gains signalled items requests cancels (.start l) p) :
    p.Tells signalled items := ⟨h.messages, h.failures, h.emitted⟩

theorem mark (p : Progress σ) (cancels : Bool) :
    Gains signalled [] [] cancels p (p.mark cancels) := by
  constructor <;> simp [Progress.mark, Progress.emitted, Progress.sent]

theorem sending (request : Request) (p : Progress σ) :
    Gains signalled [] [request] false p { p with trace := p.trace ++ [.sent request] } := by
  constructor <;> simp [Progress.emitted, Progress.sent, Event.emission?, Event.request?]

theorem closing (p : Progress σ) :
    Gains signalled [] [] false p { p with trace := p.trace ++ [.streamClosed] } := by
  constructor <;> simp [Progress.emitted, Progress.sent, Event.emission?, Event.request?]

end Gains

/-! ## Steps -/

section

variable [DecidableEq σ] (react : Behaviour σ) (p : Progress σ)

/-- An emission adds itself to what was emitted, whichever slots it calls and however it ends. -/
theorem emitted_emit (target : Target) (item : StreamItem) :
    (emit react target item p).2.emitted = p.emitted ++ [(target, item)] := by
  simp [Progress.emitted, trace_emit, List.filterMap_map, Function.comp_def, Event.emission?]

theorem sent_emit (target : Target) (item : StreamItem) :
    (emit react target item p).2.sent = p.sent := by
  simp [Progress.sent, trace_emit, List.filterMap_cons, List.filterMap_map, Function.comp_def,
    Event.request?]

variable (signalled : Bool)

theorem report_gains (failure : Failure) :
    Gains signalled [.failure failure] [] false p (report react failure p).2 where
  messages := by
    rw [report_apply, emit_apply]
    simp [StreamItem.event?]
  failures := by
    rw [report_apply, emit_apply]
    rfl
  emitted := by
    rw [report_apply, emitted_emit]
    rfl
  sent := by
    rw [report_apply, sent_emit]
    simp [Progress.sent]
  tokenCancelled := by
    rw [report_apply, emit_apply]
    simp

theorem receive_gains (message : Value) :
    Gains signalled [.event message] [] false p (receive react signalled message p).2 := by
  cases signalled with
  | true =>
    constructor
    · rw [receive_signalled, emit_apply]
      rfl
    · rw [receive_signalled, emit_apply]
      simp [StreamItem.failure?]
    · rw [receive_signalled, emitted_emit]
      rfl
    · rw [receive_signalled, sent_emit]
      simp [Progress.sent]
    · rw [receive_signalled, emit_apply]
      simp
  | false =>
    rw [receive_unsignalled]
    constructor <;> simp [StreamItem.event?, StreamItem.failure?, emissionOf, Progress.emitted,
      Progress.sent]

end

/-! ## Whole calls -/

/-- The progress has an account from the start of the call. -/
def Accounted (signalled : Bool) (l : Listeners σ) (p : Progress σ) : Prop :=
  ∃ items sent cancels, Gains signalled items sent cancels (.start l) p

section

variable {signalled cancels : Bool} {l : Listeners σ} {p p' : Progress σ}
  {items : List StreamItem} {requests : List Request}

theorem Accounted.add (h : Accounted signalled l p)
    (hgains : Gains signalled items requests cancels p p') : Accounted signalled l p' := by
  obtain ⟨_, _, _, h⟩ := h
  exact ⟨_, _, _, h.trans hgains⟩

theorem stepsKeep_accounted [DecidableEq σ] (react : Behaviour σ) :
    StepsKeep react (Accounted signalled l) (fun _ => Accounted signalled l) signalled where
  report failure p hp := .of_both (hp.add (report_gains react p signalled failure))
  receive message p hp := .of_both (hp.add (receive_gains react p signalled message))
  sent request p hp := hp.add (.sending request p)
  closed p hp := hp.add (.closing p)
  closedAfter _ p hp := hp.add (.closing p)
  cancelled p hp := by simpa only [Progress.mark, Bool.or_true] using hp.add (.mark p true)

end

/-- However a call goes, even if slots fail, its records are those of one list of items. -/
theorem perform_tells [DecidableEq σ] (client : Client σ) (call : Call) (reply : Reply) :
    ∃ items, (client.perform call reply).progress.Tells call.signalled items := by
  have hafter := run_keeps client call reply (stepsKeep_accounted client.react)
    (.start client.listeners) ⟨[], [], false, .refl _⟩
  obtain ⟨items, sent, cancels, h⟩ := hafter.both
  rw [perform_progress]
  exact ⟨items, h.tells⟩

end Call

end ConnectRpc
