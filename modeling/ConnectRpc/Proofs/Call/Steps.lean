import ConnectRpc.Proofs.Call.Run

/-!
# What every step of a call keeps

Whatever a call does is made of few steps: it records and emits a failure or a message, notes what
was sent or that a stream was closed, and marks the token as cancelled. This module proves once that
what these steps keep is kept by whole calls (`run_keeps`), however they branch, and however they
stop.

A step that emits may be ended by a slot that fails. So there are two properties: `I` holds as long
as no slot has failed, and `J fault` from the failure `fault` on. `Keeps` is the triple of a stretch
that starts with `I`; it is closed under sequencing, and the lemmas after it follow the stretches
that calls are made of, one lemma each.

An exchange sends its request first and never again. So what holds from then on need not hold before
(`Turns`): it is enough that sending the request leads to it, and that the steps which take the
answer keep it (`AnswerKeeps`). Of these, closing the stream comes last, so what holds up to then
need only be kept by the others (`DeliveryKeeps`).
-/

namespace ConnectRpc.Call

open Wire

variable {σ α β : Type}

/-- What holds where a stretch has ended: `J` of the fault if a slot failed, or else `I`. -/
structure After (I : Progress σ → Prop) (J : SlotFault → Progress σ → Prop)
    (result : Except Stop α) (p : Progress σ) : Prop where
  failed : ∀ fault, result = .error (.fault (.slot fault)) → J fault p
  otherwise : (∀ fault, result ≠ .error (.fault (.slot fault))) → I p

/-- Started where `I₀` holds, the stretch ends where `After I J` holds. -/
def Turns (I₀ I : Progress σ → Prop) (J : SlotFault → Progress σ → Prop) (r : Run σ α) : Prop :=
  ∀ p, I₀ p → After I J (r p).1 (r p).2

/-- Started where `I` holds, the stretch ends where `After I J` holds. -/
def Keeps (I : Progress σ → Prop) (J : SlotFault → Progress σ → Prop) (r : Run σ α) : Prop :=
  Turns I I J r

variable {I₀ I : Progress σ → Prop} {J : SlotFault → Progress σ → Prop}

theorem After.of_ok {a : α} {p : Progress σ} (hp : I p) : After I J (.ok a) p :=
  ⟨nofun, fun _ => hp⟩

theorem After.of_hang {p : Progress σ} (hp : I p) : After I J (.error .hang : Except Stop α) p :=
  ⟨nofun, fun _ => hp⟩

/-- What holds whether a slot has failed or not. -/
theorem After.of_both {result : Except Stop α} {p : Progress σ} (hp : I p) :
    After I (fun _ => I) result p := ⟨fun _ _ => hp, fun _ => hp⟩

theorem After.both {result : Except Stop α} {p : Progress σ}
    (h : After I (fun _ => I) result p) : I p := by
  by_cases hresult : ∃ fault, result = .error (.fault (.slot fault))
  · obtain ⟨fault, hfault⟩ := hresult
    exact h.failed fault hfault
  · exact h.otherwise fun fault hfault => hresult ⟨fault, hfault⟩

/-- Where a stretch has stopped early, its result does not depend on what it would have given. -/
theorem After.of_error {stop : Stop} {p : Progress σ}
    (h : After I J (.error stop : Except Stop α) p) :
    After I J (.error stop : Except Stop β) p where
  failed fault hfault := h.failed fault (by cases hfault; rfl)
  otherwise hne := h.otherwise fun fault hfault => hne fault (by cases hfault; rfl)

theorem keeps_pure (a : α) : Keeps I J (pure a : Run σ α) := fun _ hp => .of_ok hp

theorem keeps_throw_hang : Keeps I J (throw .hang : Run σ α) := fun _ hp => .of_hang hp

/-- A fault that is no slot's. -/
theorem keeps_throw {fault : Fault} (h : ∀ slotFault, fault ≠ .slot slotFault) :
    Keeps I J (throw (.fault fault) : Run σ α) := fun _ hp =>
  ⟨fun slotFault heq => by cases heq; exact absurd rfl (h slotFault), fun _ => hp⟩

theorem Turns.bind {r : Run σ α} {f : α → Run σ β} (h : Turns I₀ I J r)
    (hf : ∀ a, Keeps I J (f a)) : Turns I₀ I J (r >>= f) := by
  intro p hp
  have hr := h p hp
  rw [bind_apply]
  cases heq : r p with
  | mk result p' =>
    rw [heq] at hr
    cases result with
    | ok a => exact hf a p' (hr.otherwise (by simp))
    | error stop => exact hr.of_error

theorem Keeps.bind {r : Run σ α} {f : α → Run σ β} (h : Keeps I J r) (hf : ∀ a, Keeps I J (f a)) :
    Keeps I J (r >>= f) :=
  Turns.bind h hf

/-- A handler that only deals with hanging has nothing to do with slots that fail. -/
theorem Turns.tryCatch {r : Run σ α} {handle : Stop → Run σ α} (h : Turns I₀ I J r)
    (hhang : Keeps I J (handle .hang))
    (hfault : ∀ fault, handle (.fault fault) = throw (.fault fault)) :
    Turns I₀ I J (tryCatch r handle) := by
  intro p hp
  have hr := h p hp
  rw [tryCatch_apply]
  cases heq : r p with
  | mk result p' =>
    rw [heq] at hr
    cases result with
    | ok a => exact hr
    | error stop =>
      cases stop with
      | hang => exact hhang p' (hr.otherwise (by simp))
      | fault fault =>
        simp only [hfault]
        exact hr

/-- Every step that delivers what an answer brings keeps `I`, or ends in `J` of a slot's failure. -/
structure DeliveryKeeps [DecidableEq σ] (react : Behaviour σ) (I : Progress σ → Prop)
    (J : SlotFault → Progress σ → Prop) (signalled : Bool) : Prop where
  report : ∀ failure, Keeps I J (report react failure)
  receive : ∀ message, Keeps I J (receive react signalled message)
  cancelled : ∀ p, I p → I { p with tokenCancelled := true }

/-- Every step that takes an answer keeps `I`, or ends in `J` of a slot's failure. -/
structure AnswerKeeps [DecidableEq σ] (react : Behaviour σ) (I : Progress σ → Prop)
    (J : SlotFault → Progress σ → Prop) (signalled : Bool) : Prop extends
    DeliveryKeeps react I J signalled where
  closed : ∀ p, I p → I { p with trace := p.trace ++ [.streamClosed] }
  /-- The stream is closed behind a slot that failed, too. -/
  closedAfter : ∀ fault p, J fault p → J fault { p with trace := p.trace ++ [.streamClosed] }

/-- Every step of a call keeps `I`, or ends in `J` of a slot's failure. -/
structure StepsKeep [DecidableEq σ] (react : Behaviour σ) (I : Progress σ → Prop)
    (J : SlotFault → Progress σ → Prop) (signalled : Bool) : Prop extends
    AnswerKeeps react I J signalled where
  sent : ∀ request p, I p → I { p with trace := p.trace ++ [.sent request] }

/-- Sending the request leads from `I₀` to `I`. -/
def Sending (I₀ I : Progress σ → Prop) (request : Request) : Prop :=
  ∀ p, I₀ p → I { p with trace := p.trace ++ [.sent request] }

theorem Sending.note {request : Request} (h : Sending I₀ I request) :
    Turns I₀ I J (note (.sent request)) := fun p hp => .of_ok (h p hp)

/-- What is wrong with a timeout is no slot's failure. -/
theorem ne_slot_of_timeoutFault {timeout : Option Value} {fault : Fault}
    (h : timeout.bind timeoutFault? = some fault) (slotFault : SlotFault) :
    fault ≠ .slot slotFault := by
  obtain ⟨seconds, -, hseconds⟩ := Option.bind_eq_some_iff.mp h
  rcases timeoutFault?_eq_some hseconds with ⟨-, rfl⟩ | ⟨-, rfl⟩
  · simp
  · simp

/-- Takes the answer of a stream as it arrives, up to its being closed. -/
def takeStream [DecidableEq σ] (client : Client σ) (call : Call) (reply : Reply) : Run σ Unit :=
  if isSuccess reply.status then readChunks client call .empty reply.chunks
  else do
    let body := (← joinChunks call.token reply.chunks).getD []
    report client.react (statusFailure true reply.status body)

section

variable [DecidableEq σ] {react : Behaviour σ} {signalled : Bool}
  (h : DeliveryKeeps react I J signalled)

include h

theorem DeliveryKeeps.deliver : ∀ items, Keeps I J (deliver react signalled items)
  | [] => keeps_pure ()
  | .event message :: rest => (h.receive message).bind fun _ => DeliveryKeeps.deliver rest
  | .failure failure :: rest => (h.report failure).bind fun _ => DeliveryKeeps.deliver rest

theorem DeliveryKeeps.act (token : Token) (action : Action) :
    Keeps I J (act token action) := by
  intro p hp
  have hmark : I (p.mark (action.cancels && token != .absent)) := by
    cases hcancels : action.cancels && token != .absent with
    | true => simpa only [Progress.mark, Bool.or_true] using h.cancelled p hp
    | false => rwa [Progress.mark_false]
  rw [act_apply]
  cases action.turn with
  | goesOn => exact .of_ok hmark
  | fails reason => exact .of_ok hmark
  | hangs => exact .of_hang hmark

/-- Where a call waits, it goes on behind a failure of the transport or without one. -/
theorem DeliveryKeeps.awaiting (token : Token) (action : Action) {f : Option String → Run σ α}
    (hfails : ∀ reason, Keeps I J (f (some reason))) (hgoesOn : Keeps I J (f none)) :
    Keeps I J (Call.act token action >>= f) := by
  refine (h.act token action).bind fun failed => ?_
  cases failed with
  | some reason => exact hfails reason
  | none => exact hgoesOn

theorem DeliveryKeeps.joinChunks (token : Token) :
    ∀ chunks, Keeps I J (joinChunks token chunks)
  | [] => keeps_pure _
  | chunk :: rest => h.awaiting token chunk.action (fun _ => keeps_pure none)
      ((DeliveryKeeps.joinChunks token rest).bind fun _ => keeps_pure _)

end

section

variable [DecidableEq σ] {client : Client σ} {call : Call} {request : Request}
  (h : DeliveryKeeps client.react I J call.signalled)

include h

theorem DeliveryKeeps.readChunks (parser : StreamParser) (chunks : List Chunk) :
    Keeps I J (readChunks client call parser chunks) := by
  induction chunks generalizing parser with
  | nil => exact h.deliver _
  | cons chunk rest ih =>
    unfold Call.readChunks
    split
    · exact h.deliver _
    · refine h.awaiting call.token chunk.action (fun _ => h.report _) ?_
      cases chunk.data with
      | none => exact ih parser
      | some data => exact (h.deliver _).bind fun _ => ih _

theorem DeliveryKeeps.takeStream (reply : Reply) : Keeps I J (takeStream client call reply) := by
  unfold Call.takeStream
  split
  · exact h.readChunks _ _
  · exact (h.joinChunks call.token reply.chunks).bind fun _ => h.report _

theorem DeliveryKeeps.unary (hsent : Sending I₀ I request) (reply : Reply) :
    Turns I₀ I J (unary client call reply request) := by
  refine hsent.note.bind fun _ =>
    h.awaiting call.token reply.action (fun _ => h.report _) ?_
  dsimp only
  split
  · cases Json.readBytes reply.body with
    | ok message => exact h.receive message
    | error e => exact h.report _
  · exact h.report _

theorem DeliveryKeeps.buffered (hsent : Sending I₀ I request) (reply : Reply) :
    Turns I₀ I J (buffered client call reply request) := by
  refine hsent.note.bind fun _ =>
    h.awaiting call.token reply.action (fun _ => h.report _) ?_
  dsimp only
  split
  · exact h.deliver _
  · exact h.report _

theorem DeliveryKeeps.giveUp (timeout : Option Value) : Keeps I J (giveUp client timeout) := by
  intro p hp
  simp only [Call.giveUp, bind_apply, get_apply]
  split
  · exact h.report _ p hp
  · cases timeout with
    | some seconds => exact h.report _ p hp
    | none => exact keeps_throw_hang p hp

theorem DeliveryKeeps.supervise (timeout : Option Value) (token : Token) {body : Run σ Unit}
    (hbody : Keeps I J body) : Keeps I J (supervise client timeout token body) := by
  unfold Call.supervise
  split
  · exact h.report _
  · split
    · next fault hfault => exact keeps_throw (ne_slot_of_timeoutFault hfault)
    · exact Turns.tryCatch hbody (h.giveUp timeout) fun _ => rfl

end

theorem AnswerKeeps.closingStream [DecidableEq σ] {react : Behaviour σ} {signalled : Bool}
    (h : AnswerKeeps react I J signalled) {body : Run σ Unit} (hbody : Keeps I J body) :
    Keeps I J (closingStream body) := by
  intro p hp
  have hafter := hbody p hp
  rw [closingStream_apply]
  exact ⟨fun fault hfault => h.closedAfter fault _ (hafter.failed fault hfault),
    fun hne => h.closed _ (hafter.otherwise hne)⟩

section

variable [DecidableEq σ] {client : Client σ} {call : Call} {request : Request}
  (h : AnswerKeeps client.react I J call.signalled)

include h

theorem AnswerKeeps.incremental (hsent : Sending I₀ I request) (reply : Reply) :
    Turns I₀ I J (incremental client call reply request) :=
  hsent.note.bind fun _ => h.awaiting call.token reply.action (fun _ => h.report _)
    (h.closingStream (h.takeStream reply))

theorem AnswerKeeps.exchange (hsent : Sending I₀ I request) (reply : Reply) :
    Turns I₀ I J (exchange client call reply request) := by
  unfold Call.exchange
  split
  · exact h.incremental hsent reply
  · exact h.buffered hsent reply
  · exact h.unary hsent reply

end

/-- **What every step keeps, every call keeps.** -/
theorem run_keeps [DecidableEq σ] (client : Client σ) (call : Call) (reply : Reply)
    (h : StepsKeep client.react I J call.signalled) : Keeps I J (client.run call reply) := by
  unfold Client.run
  split
  · exact keeps_throw (by simp)
  · exact h.report _
  · split
    · exact h.report _
    · exact keeps_throw (by simp)
    · split
      · exact h.supervise _ _ (h.exchange (h.sent _) reply)
      · exact keeps_throw (by simp)

end ConnectRpc.Call
