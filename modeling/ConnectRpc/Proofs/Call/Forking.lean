import ConnectRpc.Proofs.Call.Slots

/-!
# Two runs that part at a slot

How slots react is an argument of a call. Two runs of one call whose slots react alike up to some
point go alike up to that point. This module compares a run that a slot's failure ends with a run
in which the slots react alike up to that failure, and some other way to the call at which it comes:
the second run shows all that the first has shown, in the same order, and goes on behind it
(`Parting.run`).

`Forks` relates the stretches of the two runs. Either both do the same, or the first is ended by the
slot and the second continues what it has shown (`ContinuedBy`). The one place where the two can
part is an emission (`Parting.emit`); there it matters that the first run has called no slot beyond
those in question, so the relation looks at a stretch whose slot calls are within them. Everything
else follows the composition of stretches, for which it is enough that no step takes back what was
shown (`stepsKeep_continuedBy`).
-/

namespace ConnectRpc.Call

open Wire

variable {σ α β : Type}

/-! ## Showing more -/

/-- All that `p` shows is shown by `q`, in the same order and before anything else. -/
structure Progress.ContinuedBy (p q : Progress σ) : Prop where
  messages : p.messages <+: q.messages
  failures : p.failures <+: q.failures
  seen : p.trace.filter Event.isSeen <+: q.trace.filter Event.isSeen

namespace Progress.ContinuedBy

variable {p q r : Progress σ}

theorem refl (p : Progress σ) : p.ContinuedBy p :=
  ⟨List.prefix_rfl, List.prefix_rfl, List.prefix_rfl⟩

theorem trans (h : p.ContinuedBy q) (h' : q.ContinuedBy r) : p.ContinuedBy r :=
  ⟨h.messages.trans h'.messages, h.failures.trans h'.failures, h.seen.trans h'.seen⟩

theorem slotCalls (h : p.ContinuedBy q) : p.slotCalls <+: q.slotCalls := by
  have hcalls := h.seen.filterMap Event.slotCall?
  rwa [filterMap_slotCall?_filter, filterMap_slotCall?_filter] at hcalls

/-- The trace goes on. -/
theorem of_trace {events : List (Event σ)} (hmessages : p.messages = q.messages)
    (hfailures : p.failures = q.failures) (htrace : q.trace = p.trace ++ events) :
    p.ContinuedBy q := by
  refine ⟨hmessages ▸ List.prefix_rfl, hfailures ▸ List.prefix_rfl, ?_⟩
  rw [htrace, List.filter_append]
  exact List.prefix_append _ _

end Progress.ContinuedBy

section

variable [DecidableEq σ] (react : Behaviour σ)

theorem emit_continues (target : Target) (item : StreamItem) (p : Progress σ) :
    p.ContinuedBy (emit react target item p).2 :=
  .of_trace (by rw [emit_apply]) (by rw [emit_apply]) (trace_emit react target item p)

theorem report_continues (failure : Failure) (p : Progress σ) :
    p.ContinuedBy (report react failure p).2 := by
  have hrecorded : p.ContinuedBy { p with failures := p.failures ++ [failure] } :=
    ⟨List.prefix_rfl, List.prefix_append _ _, List.prefix_rfl⟩
  exact hrecorded.trans (emit_continues react _ _ _)

theorem receive_continues (signalled : Bool) (message : Value) (p : Progress σ) :
    p.ContinuedBy (receive react signalled message p).2 := by
  have hrecorded : p.ContinuedBy { p with messages := p.messages ++ [message] } :=
    ⟨List.prefix_append _ _, List.prefix_rfl, List.prefix_rfl⟩
  cases signalled with
  | true => exact hrecorded.trans (emit_continues react _ _ _)
  | false => exact hrecorded

end

/-! ## Emissions -/

section

variable {S ρ : Type} {apply : S → ρ → S × Option SlotFault}

/-- The first slot is called in any case. -/
theorem called_cons (apply : S → ρ → S × Option SlotFault) (react : List σ → σ → List ρ)
    (state : S) (slot : σ) (rest : List σ) :
    ∃ later, (callSlots apply react state (slot :: rest)).called = slot :: later := by
  unfold callSlots
  split
  · exact ⟨[], rfl⟩
  · exact ⟨_, rfl⟩

/-- Where no slot is called none fails. -/
theorem fault_of_called_nil {react : List σ → σ → List ρ} {state : S} {slots : List σ}
    (h : (callSlots apply react state slots).called = []) :
    (callSlots apply react state slots).fault = none := by
  cases slots with
  | nil => rfl
  | cons slot rest =>
    obtain ⟨later, hlater⟩ := called_cons apply react state slot rest
    rw [hlater] at h
    cases h

/-- Slots that react alike as long as none of them fails, all are called alike; or else one fails,
and those up to it are also called if it reacts in another way. -/
theorem callSlots_parts {react react' : List σ → σ → List ρ} {state : S} {slots : List σ}
    (h : ∀ past slot later, (callSlots apply react state slots).called = past ++ slot :: later →
      (later = [] → (callSlots apply react state slots).fault = none) →
      react' past slot = react past slot) :
    callSlots apply react' state slots = callSlots apply react state slots ∨
      (∃ fault, (callSlots apply react state slots).fault = some fault) ∧
        (callSlots apply react state slots).called <+:
          (callSlots apply react' state slots).called := by
  induction slots generalizing react react' state with
  | nil => exact .inl rfl
  | cons slot rest ih =>
    obtain ⟨later', hlater'⟩ := called_cons apply react' state slot rest
    cases hfirst : applyReactions apply state (react [] slot) with
    | mk state' fault =>
      cases fault with
      | some fault =>
        simp only [callSlots, hfirst] at h ⊢
        refine .inr ⟨⟨fault, rfl⟩, ?_⟩
        simp only [callSlots] at hlater'
        rw [hlater']
        exact ⟨later', rfl⟩
      | none =>
        simp only [callSlots, hfirst] at h
        have hsame : react' [] slot = react [] slot := h [] slot _ rfl fault_of_called_nil
        have hrest := ih fun past next later hcalled hfault =>
          h (slot :: past) next later (by rw [hcalled]; rfl) hfault
        simp only [callSlots, hsame, hfirst]
        rcases hrest with heq | ⟨hfault, hcalled⟩
        · exact .inl (by rw [heq])
        · exact .inr ⟨hfault, (List.prefix_cons_inj slot).mpr hcalled⟩

end

section

variable [DecidableEq σ] {react react' : Behaviour σ} {l : Listeners σ}
  {before : List (SlotCall σ)} {failing : SlotCall σ}

/-- In both behaviours the slots react alike to the calls `before`, and with the first, the call
`failing` that comes next ends in a failure. -/
structure Parting (react react' : Behaviour σ) (l : Listeners σ) (before : List (SlotCall σ))
    (failing : SlotCall σ) : Prop where
  alike : ∀ past call, past ++ [call] <+: before → react' past call = react past call
  fails : (react.play [] l (before ++ [failing])).2 ≠ none

/-- The result is the failure of a slot. -/
def IsSlotFault (result : Except Stop α) : Prop :=
  ∃ fault : SlotFault, result = .error (.fault (.slot fault))

/-- Within the calls in question a slot reacts alike, unless its call is the one that fails. -/
theorem Parting.react_eq (h : Parting react react' l before failing)
    {past later : List (SlotCall σ)} {call : SlotCall σ}
    (hwithin : past ++ call :: later <+: before ++ [failing])
    (hlast : later = [] → (react.play [] l (past ++ [call])).2 = none) :
    react' past call = react past call := by
  have hcall : past ++ [call] <+: past ++ call :: later := ⟨later, by simp⟩
  rcases List.prefix_concat_iff.mp (hcall.trans hwithin) with hall | hbefore
  · have hlater : later = [] := by
      rw [← hall] at hwithin
      have hlength := hwithin.length_le
      simp only [List.length_append, List.length_cons, List.length_nil] at hlength
      exact List.length_eq_zero_iff.mp (by omega)
    exact absurd (hall ▸ hlast hlater) h.fails
  · exact h.alike past call hbefore

/-- Of two emissions of an item, the one that calls more slots continues the other. -/
theorem emit_continuedBy_emit {target : Target} {item : StreamItem} {p : Progress σ}
    (h : (p.listeners.emit react p.slotCalls target item).called <+:
      (p.listeners.emit react' p.slotCalls target item).called) :
    (Call.emit react target item p).2.ContinuedBy (Call.emit react' target item p).2 where
  messages := by
    simp only [emit_apply]
    exact List.prefix_rfl
  failures := by
    simp only [emit_apply]
    exact List.prefix_rfl
  seen := by
    obtain ⟨more, hmore⟩ := h
    rw [Progress.slotCalls] at hmore
    rw [trace_emit, trace_emit, ← hmore, List.map_append, ← List.cons_append, ← List.append_assoc,
      List.filter_append _ (List.map _ more)]
    exact List.prefix_append _ _

/-- An emission that calls no slot beyond those in question goes alike, unless it is the one at
which the two behaviours part. -/
theorem Parting.emit (h : Parting react react' l before failing) (target : Target)
    (item : StreamItem) {p : Progress σ} (hp : Played react l none p)
    (hwithin : (emit react target item p).2.slotCalls <+: before ++ [failing]) :
    Call.emit react' target item p = Call.emit react target item p ∨
      IsSlotFault (Call.emit react target item p).1 ∧
        (Call.emit react target item p).2.ContinuedBy (Call.emit react' target item p).2 := by
  have hplay := react.play_emit p.slotCalls target item p.listeners
  rw [slotCalls_emit] at hwithin
  have hparts : p.listeners.emit react' p.slotCalls target item =
        p.listeners.emit react p.slotCalls target item ∨
      (∃ fault, (p.listeners.emit react p.slotCalls target item).fault = some fault) ∧
        (p.listeners.emit react p.slotCalls target item).called <+:
          (p.listeners.emit react' p.slotCalls target item).called := by
    refine callSlots_parts fun past slot later hcalled hlast => ?_
    change (p.listeners.emit react p.slotCalls target item).called = _ at hcalled
    rw [hcalled] at hwithin
    refine h.react_eq (?_ : _ ++ _ :: later.map (⟨target, ·, item⟩) <+: _) fun hlater => ?_
    · simpa using hwithin
    · obtain rfl : later = [] := List.map_eq_nil_iff.mp hlater
      rw [hcalled] at hplay
      rw [List.append_assoc, react.play_append hp]
      simp only [List.map_append, List.map_cons, List.map_nil] at hplay
      rw [List.nil_append, hplay]
      exact hlast rfl
  rcases hparts with heq | ⟨⟨fault, hfault⟩, hcalled⟩
  · refine .inl ?_
    rw [Progress.slotCalls] at heq
    rw [emit_apply, emit_apply, heq]
  · refine .inr ⟨⟨fault, ?_⟩, emit_continuedBy_emit hcalled⟩
    rw [Progress.slotCalls] at hfault
    simp only [emit_apply, hfault]

end

/-! ## Stretches -/

/-- The stretch takes nothing back of what was shown before it. -/
def Continues (r : Run σ α) : Prop := ∀ p : Progress σ, p.ContinuedBy (r p).2

/-- Two stretches of runs that part at a slot: where the first has called no slot beyond those in
question, the second does the same, or a slot has ended the first and the second goes on. -/
structure Forks [DecidableEq σ] (react : Behaviour σ) (l : Listeners σ) (whole : List (SlotCall σ))
    (r s : Run σ α) : Prop where
  played : Keeps (Played react l none) (fun fault => Played react l (some fault)) r
  shows : Continues r
  shows' : Continues s
  parts : ∀ p, Played react l none p → (r p).2.slotCalls <+: whole →
    s p = r p ∨ IsSlotFault (r p).1 ∧ (r p).2.ContinuedBy (s p).2

/-- A stretch that goes on shows what its beginning has shown. -/
theorem continuedBy_bind {r : Run σ α} {f : α → Run σ β} (hf : ∀ a, Continues (f a))
    (p : Progress σ) : (r p).2.ContinuedBy ((r >>= f) p).2 := by
  rw [bind_apply]
  split
  · next a p' heq =>
    rw [heq]
    exact hf a p'
  · next stop p' heq =>
    rw [heq]
    exact .refl _

theorem continuedBy_tryCatch {r : Run σ α} {handle : Stop → Run σ α}
    (hhandle : ∀ stop, Continues (handle stop)) (p : Progress σ) :
    (r p).2.ContinuedBy (tryCatch r handle p).2 := by
  rw [tryCatch_apply]
  split
  · next a p' heq =>
    rw [heq]
    exact .refl _
  · next stop p' heq =>
    rw [heq]
    exact hhandle stop p'

namespace Forks

variable [DecidableEq σ] {react react' : Behaviour σ} {l : Listeners σ}
  {whole : List (SlotCall σ)} {r s : Run σ α}

/-- Both runs do the same, whatever the behaviour. -/
theorem same (hplayed : Keeps (Played react l none) (fun fault => Played react l (some fault)) r)
    (hshows : Continues r) : Forks react l whole r r :=
  ⟨hplayed, hshows, hshows, fun _ _ _ => .inl rfl⟩

theorem pure (a : α) : Forks react l whole (pure a : Run σ α) (Pure.pure a) :=
  .same (keeps_pure a) fun _ => .refl _

theorem throw_hang : Forks react l whole (throw .hang : Run σ α) (throw .hang) :=
  .same keeps_throw_hang fun _ => .refl _

/-- A fault that is no slot's. -/
theorem throw {fault : Fault} (h : ∀ slotFault, fault ≠ .slot slotFault) :
    Forks react l whole (throw (.fault fault) : Run σ α) (MonadExcept.throw (.fault fault)) :=
  .same (keeps_throw h) fun _ => .refl _

theorem note_sent (request : Request) :
    Forks react l whole (note (.sent request)) (note (.sent request)) :=
  .same (Sending.note ((stepsKeep_played react l true).sent request)) fun _ => .of_trace rfl rfl rfl

theorem act (token : Token) (action : Action) :
    Forks react l whole (act token action) (Call.act token action) := by
  refine .same ((stepsKeep_played react l true).act token action) fun p => ?_
  rw [act_apply]
  exact ⟨List.prefix_rfl, List.prefix_rfl, List.prefix_rfl⟩

theorem bind {f g : α → Run σ β} (h : Forks react l whole r s)
    (hfg : ∀ a, Forks react l whole (f a) (g a)) : Forks react l whole (r >>= f) (s >>= g) where
  played := h.played.bind fun a => (hfg a).played
  shows p := (h.shows p).trans (continuedBy_bind (fun a => (hfg a).shows) p)
  shows' p := (h.shows' p).trans (continuedBy_bind (fun a => (hfg a).shows') p)
  parts p hp hwithin := by
    have hfirst := (continuedBy_bind (r := r) (fun a => (hfg a).shows) p).slotCalls.trans hwithin
    rcases h.parts p hp hfirst with heq | ⟨⟨fault, hfault⟩, hcontinued⟩
    · have hafter := h.played p hp
      rw [bind_apply] at hwithin
      rw [bind_apply, bind_apply, heq]
      cases hr : r p with
      | mk result p' =>
        rw [hr] at hafter hwithin
        cases result with
        | ok a => exact (hfg a).parts p' (hafter.otherwise (by simp)) hwithin
        | error stop => exact .inl rfl
    · have hstopped : (r >>= f) p = (.error (.fault (.slot fault)), (r p).2) := by
        rw [bind_apply, ← Prod.eta (r p), hfault]
      rw [hstopped]
      exact .inr ⟨⟨fault, rfl⟩, hcontinued.trans (continuedBy_bind (fun a => (hfg a).shows') p)⟩

/-- Where a call waits, it goes on behind a failure of the transport or without one. -/
theorem awaiting (token : Token) (action : Action) {f g : Option String → Run σ α}
    (hfails : ∀ reason, Forks react l whole (f (some reason)) (g (some reason)))
    (hgoesOn : Forks react l whole (f none) (g none)) :
    Forks react l whole (Call.act token action >>= f) (Call.act token action >>= g) := by
  refine (Forks.act token action).bind fun failed => ?_
  cases failed with
  | some reason => exact hfails reason
  | none => exact hgoesOn

theorem tryCatch {handle handle' : Stop → Run σ α} (h : Forks react l whole r s)
    (hhang : Forks react l whole (handle .hang) (handle' .hang))
    (hfault : ∀ fault, handle (.fault fault) = MonadExcept.throw (.fault fault))
    (hfault' : ∀ fault, handle' (.fault fault) = MonadExcept.throw (.fault fault)) :
    Forks react l whole (tryCatch r handle) (MonadExcept.tryCatch s handle') := by
  have hshows : ∀ stop, Continues (handle stop) := by
    intro stop
    cases stop with
    | hang => exact hhang.shows
    | fault fault => exact hfault fault ▸ fun p => .refl p
  have hshows' : ∀ stop, Continues (handle' stop) := by
    intro stop
    cases stop with
    | hang => exact hhang.shows'
    | fault fault => exact hfault' fault ▸ fun p => .refl p
  refine ⟨Turns.tryCatch h.played hhang.played hfault,
    fun p => (h.shows p).trans (continuedBy_tryCatch hshows p),
    fun p => (h.shows' p).trans (continuedBy_tryCatch hshows' p), fun p hp hwithin => ?_⟩
  have hfirst := (continuedBy_tryCatch (r := r) hshows p).slotCalls.trans hwithin
  rcases h.parts p hp hfirst with heq | ⟨⟨fault, hslot⟩, hcontinued⟩
  · have hafter := h.played p hp
    rw [tryCatch_apply] at hwithin
    rw [tryCatch_apply, tryCatch_apply, heq]
    cases hr : r p with
    | mk result p' =>
      rw [hr] at hafter hwithin
      cases result with
      | ok a => exact .inl rfl
      | error stop =>
        cases stop with
        | hang => exact hhang.parts p' (hafter.otherwise (by simp)) hwithin
        | fault fault =>
          dsimp only
          rw [hfault, hfault']
          exact .inl rfl
  · have hstopped : MonadExcept.tryCatch r handle p =
        (.error (.fault (.slot fault)), (r p).2) := by
      rw [tryCatch_apply, ← Prod.eta (r p), hslot]
      simp only [hfault]
      rfl
    rw [hstopped]
    exact .inr ⟨⟨fault, rfl⟩, hcontinued.trans (continuedBy_tryCatch hshows' p)⟩

theorem closingStream {body body' : Run σ Unit} (h : Forks react l whole body body') :
    Forks react l whole (closingStream body) (Call.closingStream body') where
  played := (stepsKeep_played react l true).closingStream h.played
  shows p := (h.shows p).trans (.of_trace rfl rfl rfl)
  shows' p := (h.shows' p).trans (.of_trace rfl rfl rfl)
  parts p hp hwithin := by
    rw [closingStream_apply] at hwithin
    have hclosed (q : Progress σ) : q.ContinuedBy { q with trace := q.trace ++ [.streamClosed] } :=
      .of_trace rfl rfl rfl
    rw [closingStream_apply, closingStream_apply]
    rcases h.parts p hp ((hclosed _).slotCalls.trans hwithin) with heq | ⟨hslot, hcontinued⟩
    · exact .inl (by rw [heq])
    · refine .inr ⟨hslot, hcontinued.messages, hcontinued.failures, ?_⟩
      simpa [Event.isSeen] using hcontinued.seen

end Forks

/-! ## Calls -/

section

variable [DecidableEq σ] {react react' : Behaviour σ} {l : Listeners σ}
  {before : List (SlotCall σ)} {failing : SlotCall σ}
  (h : Parting react react' l before failing)

include h

theorem Parting.report (failure : Failure) :
    Forks react l (before ++ [failing]) (report react failure) (Call.report react' failure) where
  played := (stepsKeep_played react l true).report failure
  shows := report_continues react failure
  shows' := report_continues react' failure
  parts _ hp hwithin := h.emit _ _ hp hwithin

theorem Parting.receive (signalled : Bool) (message : Value) :
    Forks react l (before ++ [failing]) (receive react signalled message)
      (Call.receive react' signalled message) where
  played := (stepsKeep_played react l signalled).receive message
  shows := receive_continues react signalled message
  shows' := receive_continues react' signalled message
  parts p hp hwithin := by
    cases signalled with
    | true => exact h.emit _ _ hp hwithin
    | false => exact .inl rfl

theorem Parting.deliver (signalled : Bool) : ∀ items,
    Forks react l (before ++ [failing]) (deliver react signalled items)
      (Call.deliver react' signalled items)
  | [] => .pure ()
  | .event message :: rest => (h.receive signalled message).bind fun _ =>
      Parting.deliver signalled rest
  | .failure failure :: rest => (h.report failure).bind fun _ => Parting.deliver signalled rest

end

section

variable [DecidableEq σ] {client : Client σ} {react' : Behaviour σ} {l : Listeners σ}
  {before : List (SlotCall σ)} {failing : SlotCall σ} {call : Call}
  (h : Parting client.react react' l before failing)

/-- The client with other slots. -/
def Client.reacting (client : Client σ) (react : Behaviour σ) : Client σ := { client with react }

theorem Forks.joinChunks (react : Behaviour σ) (whole : List (SlotCall σ)) (token : Token) :
    ∀ chunks, Forks react l whole (joinChunks token chunks) (Call.joinChunks token chunks)
  | [] => .pure _
  | chunk :: rest => .awaiting token chunk.action (fun _ => .pure none)
      ((Forks.joinChunks react whole token rest).bind fun _ => .pure _)

include h

theorem Parting.readChunks (parser : StreamParser) (chunks : List Chunk) :
    Forks client.react l (before ++ [failing]) (readChunks client call parser chunks)
      (Call.readChunks (client.reacting react') call parser chunks) := by
  induction chunks generalizing parser with
  | nil => exact h.deliver _ _
  | cons chunk rest ih =>
    unfold Call.readChunks
    split
    · exact h.deliver _ _
    · refine .awaiting call.token chunk.action (fun _ => h.report _) ?_
      cases chunk.data with
      | none => exact ih parser
      | some data => exact (h.deliver _ _).bind fun _ => ih _

theorem Parting.unary (reply : Reply) (request : Request) :
    Forks client.react l (before ++ [failing]) (unary client call reply request)
      (Call.unary (client.reacting react') call reply request) := by
  refine (Forks.note_sent request).bind fun _ =>
    .awaiting call.token reply.action (fun _ => h.report _) ?_
  dsimp only
  split
  · cases Json.readBytes reply.body with
    | ok message => exact h.receive _ message
    | error e => exact h.report _
  · exact h.report _

theorem Parting.buffered (reply : Reply) (request : Request) :
    Forks client.react l (before ++ [failing]) (buffered client call reply request)
      (Call.buffered (client.reacting react') call reply request) := by
  refine (Forks.note_sent request).bind fun _ =>
    .awaiting call.token reply.action (fun _ => h.report _) ?_
  dsimp only
  split
  · exact h.deliver _ _
  · exact h.report _

theorem Parting.incremental (reply : Reply) (request : Request) :
    Forks client.react l (before ++ [failing]) (incremental client call reply request)
      (Call.incremental (client.reacting react') call reply request) := by
  refine (Forks.note_sent request).bind fun _ =>
    .awaiting call.token reply.action (fun _ => h.report _) (.closingStream ?_)
  split
  · exact h.readChunks _ _
  · exact (Forks.joinChunks _ _ call.token reply.chunks).bind fun _ => h.report _

theorem Parting.exchange (reply : Reply) (request : Request) :
    Forks client.react l (before ++ [failing]) (exchange client call reply request)
      (Call.exchange (client.reacting react') call reply request) := by
  unfold Call.exchange
  split
  · exact h.incremental reply request
  · exact h.buffered reply request
  · exact h.unary reply request

theorem Parting.giveUp (timeout : Option Value) :
    Forks client.react l (before ++ [failing]) (giveUp client timeout)
      (Call.giveUp (client.reacting react') timeout) := by
  unfold Call.giveUp
  refine Forks.bind (.same (fun _ hp => .of_ok hp) fun p => .refl p) fun p => ?_
  split
  · exact h.report _
  · cases timeout with
    | some seconds => exact h.report _
    | none => exact .throw_hang

theorem Parting.supervise (timeout : Option Value) (token : Token) {body body' : Run σ Unit}
    (hbody : Forks client.react l (before ++ [failing]) body body') :
    Forks client.react l (before ++ [failing]) (supervise client timeout token body)
      (Call.supervise (client.reacting react') timeout token body') := by
  unfold Call.supervise
  split
  · exact h.report _
  · split
    · next fault hfault => exact .throw (ne_slot_of_timeoutFault hfault)
    · exact hbody.tryCatch (h.giveUp timeout) (fun _ => rfl) fun _ => rfl

/-- **Two runs part at a slot's failure at the earliest.** -/
theorem Parting.run (call : Call) (reply : Reply) :
    Forks client.react l (before ++ [failing]) (client.run call reply)
      ((client.reacting react').run call reply) := by
  unfold Client.run
  rw [show (client.reacting react').config = client.config from rfl]
  split
  · exact .throw (by simp)
  · exact h.report _
  · split
    · exact h.report _
    · exact .throw (by simp)
    · split
      · exact h.supervise _ _ (h.exchange reply _)
      · exact .throw (by simp)

end

end ConnectRpc.Call
