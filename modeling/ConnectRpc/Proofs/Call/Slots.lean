import ConnectRpc.Proofs.Call.Account

/-!
# Slots that do not fail

Whether the slots that a call calls fail is read off their calls alone: `Behaviour.play` calls them
again, in their order and with nothing else of the call going on. `Client.NoSlotFails` says that
none fails then.

In a call, that is the same as that no slot's failure escapes (`raised_slot_iff`): the slots leave
the registrations behind that they leave when they are called again, as long as none has failed, and
the first that fails ends the call.
-/

namespace ConnectRpc.Call

open Wire

variable {σ : Type} [DecidableEq σ]

/-- Calls slots one after the other, up to the first that fails: the registrations that they leave
behind, and the failure. -/
def Behaviour.play (react : Behaviour σ) (before : List (SlotCall σ)) (l : Listeners σ) :
    List (SlotCall σ) → Listeners σ × Option SlotFault
  | [] => (l, none)
  | call :: rest =>
    match applyReactions Listeners.apply l (react before call) with
    | (l', some fault) => (l', some fault)
    | (l', none) => react.play (before ++ [call]) l' rest

/-- None of the slots that the call calls fails. -/
def Client.NoSlotFails (client : Client σ) (call : Call) (reply : Reply) : Prop :=
  (client.react.play [] client.listeners (client.perform call reply).progress.slotCalls).2 = none

namespace Behaviour

variable (react : Behaviour σ)

theorem play_append {before calls : List (SlotCall σ)} {l l' : Listeners σ}
    (h : react.play before l calls = (l', none)) (more : List (SlotCall σ)) :
    react.play before l (calls ++ more) = react.play (before ++ calls) l' more := by
  induction calls generalizing before l with
  | nil =>
    obtain rfl : l = l' := congrArg Prod.fst h
    rw [List.nil_append, List.append_nil]
  | cons call rest ih =>
    simp only [play, List.cons_append] at h ⊢
    split at h
    · cases h
    · next l'' heq =>
      rw [ih h, List.append_assoc, List.singleton_append]

/-- The slots that an emission calls, called again, come to what the emission came to. -/
theorem play_emit (before : List (SlotCall σ)) (target : Target) (item : StreamItem)
    (l : Listeners σ) :
    react.play before l ((l.emit react before target item).called.map (⟨target, ·, item⟩)) =
      ((l.emit react before target item).state, (l.emit react before target item).fault) := by
  unfold Listeners.emit
  -- The slots of the signal stay the same while the registrations change under way.
  generalize (l.signal target).slots = slots
  induction slots generalizing before l with
  | nil => rfl
  | cons slot rest ih =>
    simp only [callSlots, List.map_nil, List.append_nil]
    split
    · next l' fault heq => simp only [List.map_cons, List.map_nil, play, heq]
    · next l' heq =>
      have hlater := ih (before ++ [⟨target, slot, item⟩]) l'
      simp only [List.append_assoc, List.singleton_append] at hlater
      simp only [List.map_cons, play, heq]
      exact hlater

end Behaviour

/-! ## Calls -/

/-- The slots called so far, called again, leave the progress's registrations and the fault. -/
def Played (react : Behaviour σ) (l : Listeners σ) (fault : Option SlotFault) (p : Progress σ) :
    Prop :=
  react.play [] l p.slotCalls = (p.listeners, fault)

theorem slotCalls_emit (react : Behaviour σ) (target : Target) (item : StreamItem)
    (p : Progress σ) :
    (emit react target item p).2.slotCalls = p.slotCalls ++
      (p.listeners.emit react p.slotCalls target item).called.map (⟨target, ·, item⟩) := by
  simp [Progress.slotCalls, trace_emit, List.filterMap_cons, List.filterMap_map,
    Function.comp_def, Event.slotCall?]

theorem emit_played (react : Behaviour σ) (l : Listeners σ) (target : Target) (item : StreamItem) :
    Keeps (Played react l none) (fun fault => Played react l (some fault))
      (emit react target item) := by
  intro p hp
  have hplay : Played react l (p.listeners.emit react p.slotCalls target item).fault
      (emit react target item p).2 := by
    unfold Played
    rw [slotCalls_emit, react.play_append hp, List.nil_append, react.play_emit, emit_apply]
    rfl
  cases hfault : (p.listeners.emit react p.slotCalls target item).fault with
  | none =>
    have hresult : (emit react target item p).1 = .ok () := by
      rw [Progress.slotCalls] at hfault
      simp only [emit_apply, hfault]
    rw [hfault] at hplay
    rw [hresult]
    exact .of_ok hplay
  | some fault =>
    have hresult : (emit react target item p).1 = .error (.fault (.slot fault)) := by
      rw [Progress.slotCalls] at hfault
      simp only [emit_apply, hfault]
    rw [hfault] at hplay
    rw [hresult]
    refine ⟨fun fault' heq => ?_, fun hne => absurd rfl (hne fault)⟩
    cases heq
    exact hplay

theorem stepsKeep_played (react : Behaviour σ) (l : Listeners σ) (signalled : Bool) :
    StepsKeep react (Played react l none) (fun fault => Played react l (some fault)) signalled where
  report failure p hp := emit_played react l .failures (.failure failure) _ hp
  receive message p hp := by
    cases signalled with
    | true => exact emit_played react l .messages (.event message) _ hp
    | false => exact .of_ok hp
  sent request p hp := by
    simpa [Played, Progress.slotCalls, List.filterMap_cons, Event.slotCall?] using hp
  closed p hp := by
    simpa [Played, Progress.slotCalls, List.filterMap_cons, Event.slotCall?] using hp
  closedAfter fault p hp := by
    simpa [Played, Progress.slotCalls, List.filterMap_cons, Event.slotCall?] using hp
  cancelled p hp := hp

/-- **A slot's failure escapes.** The exception that escapes a call is that of a slot exactly when
that is how the slots that it called fail. -/
theorem raised_slot_iff (client : Client σ) (call : Call) (reply : Reply) (fault : SlotFault) :
    (client.perform call reply).ending = .raised (.slot fault) ↔
      (client.react.play [] client.listeners (client.perform call reply).progress.slotCalls).2 =
        some fault := by
  have hafter := run_keeps client call reply
    (stepsKeep_played client.react client.listeners call.signalled) (.start client.listeners) rfl
  rw [perform_ending, perform_progress]
  by_cases hslot : ∃ fault',
      (client.run call reply (.start client.listeners)).1 = .error (.fault (.slot fault'))
  · obtain ⟨fault', hfault'⟩ := hslot
    rw [show _ = _ from hafter.failed fault' hfault', hfault']
    simp [Ending.of]
  · have hne := fun fault' heq => hslot ⟨fault', heq⟩
    rw [show _ = _ from hafter.otherwise hne]
    simp only [reduceCtorEq, iff_false]
    intro hending
    cases hresult : (client.run call reply (.start client.listeners)).1 with
    | ok _ => rw [hresult] at hending; cases hending
    | error stop =>
      rw [hresult] at hending
      cases stop with
      | hang => cases hending
      | fault fault' =>
        cases hending
        exact hne fault hresult

/-! ## Slots that only connect others -/

theorem applyReactions_of_connecting {reactions : List (Target × Reaction σ)}
    (h : ∀ reaction ∈ reactions, ∃ slot, reaction.2 = .connect slot) (l : Listeners σ) :
    (applyReactions Listeners.apply l reactions).2 = none := by
  induction reactions generalizing l with
  | nil => rfl
  | cons reaction rest ih =>
    obtain ⟨⟨slot, hslot⟩, hrest⟩ := List.forall_mem_cons.mp h
    simp only [applyReactions, Listeners.apply, hslot, Reaction.apply]
    exact ih hrest _

/-- Slots that only connect others do not fail. -/
theorem noSlotFails_of_connecting {client : Client σ}
    (h : ∀ before call, ∀ reaction ∈ client.react before call, ∃ slot, reaction.2 = .connect slot)
    (call : Call) (reply : Reply) : client.NoSlotFails call reply := by
  unfold Client.NoSlotFails
  generalize (client.perform call reply).progress.slotCalls = calls
  generalize ([] : List (SlotCall σ)) = before
  generalize client.listeners = l
  induction calls generalizing before l with
  | nil => rfl
  | cons call rest ih =>
    have hfirst := applyReactions_of_connecting (h before call) l
    simp only [Behaviour.play]
    split
    · next heq => rw [heq] at hfirst; cases hfirst
    · exact ih _ _

end ConnectRpc.Call
