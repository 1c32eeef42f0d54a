import ConnectRpc.Proofs.Call.Forking
import ConnectRpc.Proofs.Call.Outcomes
import Mathlib.Data.List.Basic

/-!
# Slots that fail

A slot that fails ends the call that it was called in, wherever that was: its failure is the
exception that escapes, no failure of the protocol is made of it, and nothing else comes after it
but the closing of the stream (`Progress.BrokenOff`). Up to there the call goes as it would go if
the slot had not failed. `perform_slot_fails` proves both, for any call against any script.

That a slot's failure is the exception that escapes was shown with `raised_slot_iff`. What a call
shows behind it is a matter of what each step leaves where it is ended by a slot
(`stepsKeep_breaksOff`), and the comparison of the two runs that of `Forks`.
-/

namespace ConnectRpc.Call

open Wire

variable {σ : Type}

/-! ## The call of a slot that fails -/

section

variable [DecidableEq σ]

/-- Of the slots that are called, none of those `before` fails, and the next one does: with the
registrations that they leave behind, its reactions to the call `failing` come to `fault`. -/
structure Behaviour.FailsAt (react : Behaviour σ) (l : Listeners σ) (before : List (SlotCall σ))
    (failing : SlotCall σ) (fault : SlotFault) : Prop where
  unfailing : (react.play [] l before).2 = none
  fails : (applyReactions Listeners.apply (react.play [] l before).1 (react before failing)).2 =
    some fault

namespace Behaviour

variable {react : Behaviour σ} {l : Listeners σ} {before : List (SlotCall σ)}
  {failing : SlotCall σ} {fault : SlotFault}

/-- Among slots that do not fail, the first do not fail. -/
theorem play_of_prefix {past calls calls' : List (SlotCall σ)} (hfirsts : calls <+: calls')
    (h : (react.play past l calls').2 = none) : (react.play past l calls).2 = none := by
  obtain ⟨more, rfl⟩ := hfirsts
  induction calls generalizing past l with
  | nil => rfl
  | cons call rest ih =>
    simp only [play, List.cons_append] at h ⊢
    split at h
    · cases h
    · exact ih h

theorem FailsAt.play (h : react.FailsAt l before failing fault) (after : List (SlotCall σ)) :
    (react.play [] l (before ++ failing :: after)).2 = some fault := by
  have hbefore : react.play [] l before = ((react.play [] l before).1, none) :=
    Prod.ext rfl h.unfailing
  rw [react.play_append hbefore, List.nil_append, Behaviour.play]
  split
  · next heq => exact (congrArg Prod.snd heq).symm.trans h.fails
  · next heq =>
    have hnone := (congrArg Prod.snd heq).symm.trans h.fails
    cases hnone

/-- Where an emission fails, it is the last slot called that fails, and none before it. -/
theorem emit_fault {past : List (SlotCall σ)} {target : Target} {item : StreamItem}
    (h : (l.emit react past target item).fault = some fault) :
    ∃ slots slot, (l.emit react past target item).called = slots ++ [slot] ∧
      (react.play past l (slots.map (⟨target, ·, item⟩))).2 = none := by
  unfold Listeners.emit at h ⊢
  generalize (l.signal target).slots = registered at h ⊢
  induction registered generalizing past l with
  | nil => cases h
  | cons slot rest ih =>
    simp only [callSlots, List.map_nil, List.append_nil] at h ⊢
    split at h
    · exact ⟨[], slot, rfl, rfl⟩
    · next l' heq =>
      obtain ⟨slots, last, hcalled, hplay⟩ := @ih l' (past ++ [⟨target, slot, item⟩])
        (by simpa only [List.map_cons, List.append_assoc, List.singleton_append] using h)
      simp only [List.append_assoc, List.singleton_append] at hcalled
      refine ⟨slot :: slots, last, congrArg (slot :: ·) hcalled, ?_⟩
      simp only [List.map_cons, Behaviour.play, heq]
      exact hplay

end Behaviour

end

/-! ## Calls that are broken off -/

/-- The call has come to its end at the slot call `failing`, in the midst of emitting its item. -/
structure Progress.BrokenOff (p : Progress σ) (signalled : Bool) (before : List (SlotCall σ))
    (failing : SlotCall σ) : Prop where
  slotCalls : p.slotCalls = before ++ [failing]
  /-- Behind the call of the slot the stream is closed at most. -/
  trace : ∃ (shown : List (Event σ)) (slots : List σ) (closing : List (Event σ)),
    p.trace = shown ++ .emitted failing.target failing.item ::
      slots.map (fun slot => .called ⟨failing.target, slot, failing.item⟩) ++
        .called failing :: closing ∧
    ∀ event ∈ closing, event = .streamClosed
  /-- The last item that was recorded is the one that the slot was called with. -/
  tells : ∃ items, p.Tells signalled (items ++ [failing.item])

theorem Progress.BrokenOff.closed {p : Progress σ} {signalled : Bool}
    {before : List (SlotCall σ)} {failing : SlotCall σ} (h : p.BrokenOff signalled before failing) :
    Progress.BrokenOff { p with trace := p.trace ++ [.streamClosed] } signalled before failing where
  slotCalls := by
    simpa [Progress.slotCalls, List.filterMap_cons, Event.slotCall?] using h.slotCalls
  trace := by
    obtain ⟨shown, slots, closing, htrace, hclosing⟩ := h.trace
    refine ⟨shown, slots, closing ++ [.streamClosed], ?_, ?_⟩
    · simp only [htrace, List.append_assoc, List.cons_append]
    · simpa [or_imp, forall_and] using hclosing
  tells := by
    obtain ⟨items, htells⟩ := h.tells
    refine ⟨items, htells.messages, htells.failures, ?_⟩
    simpa [Progress.emitted, List.filterMap_cons, Event.emission?] using htells.emitted

/-- The call is broken off at the first of its slots that fails. -/
def BreaksOff [DecidableEq σ] (react : Behaviour σ) (l : Listeners σ) (signalled : Bool)
    (p : Progress σ) : Prop :=
  ∃ before failing, p.BrokenOff signalled before failing ∧ (react.play [] l before).2 = none

section

variable [DecidableEq σ] {react : Behaviour σ} {l : Listeners σ} {signalled : Bool}
  {target : Target} {item : StreamItem} {p : Progress σ} {fault : SlotFault}

/-- An emission that a slot's failure ends breaks the call off. -/
theorem emit_breaksOff (hp : Played react l none p)
    (hfault : (emit react target item p).1 = .error (.fault (.slot fault)))
    (htells : ∃ items, (emit react target item p).2.Tells signalled (items ++ [item])) :
    BreaksOff react l signalled (emit react target item p).2 := by
  have hemission : (p.listeners.emit react p.slotCalls target item).fault = some fault := by
    rw [emit_apply] at hfault
    dsimp only at hfault
    rw [Progress.slotCalls]
    split at hfault
    · cases hfault
    · next heq =>
      cases hfault
      exact heq
  obtain ⟨slots, slot, hcalled, hplay⟩ := Behaviour.emit_fault hemission
  refine ⟨p.slotCalls ++ slots.map (⟨target, ·, item⟩), ⟨target, slot, item⟩, ⟨?_, ?_, htells⟩, ?_⟩
  · rw [slotCalls_emit, hcalled, List.map_append, List.append_assoc]
    rfl
  · refine ⟨p.trace, slots, [], ?_, by simp⟩
    rw [trace_emit]
    show _ ++ _ :: List.map _ (p.listeners.emit react p.slotCalls target item).called = _
    rw [hcalled, List.map_append, List.append_assoc]
    rfl
  · rw [react.play_append hp, List.nil_append]
    exact hplay

/-- As long as no slot fails, the slot calls and the records have an account; where one fails, the
call is broken off. -/
theorem stepsKeep_breaksOff (react : Behaviour σ) (l : Listeners σ) (signalled : Bool) :
    StepsKeep react (fun p => Played react l none p ∧ Accounted signalled l p)
      (fun _ => BreaksOff react l signalled) signalled where
  report failure p hp := by
    obtain ⟨hplayed, items, sent, cancels, hgains⟩ := hp
    have hreported := hgains.trans (report_gains react p signalled failure)
    have hafter := (stepsKeep_played react l signalled).report failure p hplayed
    refine ⟨fun fault hfault => ?_, fun hne => ⟨hafter.otherwise hne, _, _, _, hreported⟩⟩
    exact emit_breaksOff hplayed hfault ⟨items, hreported.tells⟩
  receive message p hp := by
    obtain ⟨hplayed, items, sent, cancels, hgains⟩ := hp
    have hreceived := hgains.trans (receive_gains react p signalled message)
    have hafter := (stepsKeep_played react l signalled).receive message p hplayed
    refine ⟨fun fault hfault => ?_, fun hne => ⟨hafter.otherwise hne, _, _, _, hreceived⟩⟩
    cases signalled with
    | true => exact emit_breaksOff hplayed hfault ⟨items, hreceived.tells⟩
    | false => cases hfault
  sent request p hp := ⟨(stepsKeep_played react l signalled).sent request p hp.1,
    (stepsKeep_accounted react).sent request p hp.2⟩
  closed p hp := ⟨(stepsKeep_played react l signalled).closed p hp.1,
    (stepsKeep_accounted react).closed p hp.2⟩
  closedAfter fault p hp := by
    obtain ⟨before, failing, hbroken, hplay⟩ := hp
    exact ⟨before, failing, hbroken.closed, hplay⟩
  cancelled p hp := ⟨hp.1, (stepsKeep_accounted react).cancelled p hp.2⟩

/-! ## Calls -/

/-- A call from which a slot's failure escapes is broken off. -/
theorem perform_breaksOff {client : Client σ} {call : Call} {reply : Reply}
    (h : (client.perform call reply).ending = .raised (.slot fault)) :
    BreaksOff client.react client.listeners call.signalled
      (client.perform call reply).progress := by
  have hafter := run_keeps client call reply
    (stepsKeep_breaksOff client.react client.listeners call.signalled) (.start client.listeners)
    ⟨rfl, [], [], false, .refl _⟩
  rw [perform_ending] at h
  rw [perform_progress]
  refine hafter.failed fault ?_
  generalize (client.run call reply (.start client.listeners)).1 = result at h
  cases result with
  | ok a => cases h
  | error stop =>
    cases stop with
    | hang => cases h
    | fault fault' =>
      cases h
      rfl

/-- **A slot's failure is the end of its call, and nothing else.** If one of the slots that a call
calls fails, its failure is the exception that escapes; behind it no slot is called, no item is
delivered and nothing is recorded. With slots that react alike as long as none has failed, and any
way to that call, the same slots are called up to there and all that was shown is shown. -/
theorem perform_slot_fails (client : Client σ) (call : Call) (reply : Reply)
    {before after : List (SlotCall σ)} {failing : SlotCall σ} {fault : SlotFault}
    (hcalls : (client.perform call reply).progress.slotCalls = before ++ failing :: after)
    (hfails : client.react.FailsAt client.listeners before failing fault) :
    let outcome := client.perform call reply
    outcome.ending = .raised (.slot fault) ∧
    outcome.progress.BrokenOff call.signalled before failing ∧
    ∀ react' : Behaviour σ,
      (∀ past call, past ++ [call] <+: before → react' past call = client.react past call) →
      let other := (client.reacting react').perform call reply
      before ++ [failing] <+: other.progress.slotCalls ∧
        outcome.progress.ContinuedBy other.progress := by
  intro outcome
  have hraised : outcome.ending = .raised (.slot fault) := by
    rw [raised_slot_iff, hcalls]
    exact hfails.play after
  obtain ⟨before', failing', hbroken, hplay⟩ := perform_breaksOff hraised
  -- The last slot called is the first that fails, so the call was broken off at this one.
  have hlast : before' ++ [failing'] = before ++ failing :: after :=
    hbroken.slotCalls.symm.trans hcalls
  have hfirst : ¬ before ++ [failing] <+: before' := by
    intro hfirsts
    have hnone := Behaviour.play_of_prefix hfirsts hplay
    rw [hfails.play []] at hnone
    cases hnone
  have hcall : before ++ [failing] <+: before' ++ [failing'] := ⟨after, by simp [hlast]⟩
  have hsame : before ++ [failing] = before' ++ [failing'] :=
    (List.prefix_concat_iff.mp hcall).resolve_right hfirst
  obtain ⟨rfl, hfailing⟩ := List.append_inj' hsame rfl
  obtain rfl : failing = failing' := List.head_eq_of_cons_eq hfailing
  refine ⟨hraised, hbroken, fun react' halike => ?_⟩
  have hparting : Parting client.react react' client.listeners before failing :=
    ⟨halike, by simp [hfails.play []]⟩
  have hforks := hparting.run call reply
  have hcontinued : outcome.progress.ContinuedBy
      ((client.reacting react').perform call reply).progress := by
    have hshown : (client.run call reply (.start client.listeners)).2.slotCalls =
        before ++ [failing] := by
      rw [← perform_progress, hbroken.slotCalls]
    have hparts := hforks.parts (.start client.listeners) rfl ⟨[], by simp [hshown]⟩
    show (client.perform call reply).progress.ContinuedBy _
    rw [perform_progress, perform_progress]
    rcases hparts with heq | ⟨-, hcontinued⟩
    · rw [show (client.reacting react').listeners = client.listeners from rfl, heq]
      exact .refl _
    · exact hcontinued
  refine ⟨?_, hcontinued⟩
  have hslotCalls := hcontinued.slotCalls
  rwa [hbroken.slotCalls] at hslotCalls

end

/-- The second call of a slot fails, of the two that a stream of two lists leads to. If it connects
another slot instead, that one is called after it. -/
theorem perform_slot_fails_second :
    let client := failingClient "http://localhost:8080" none
    let call := emptyCall .stream
    let reply : Reply := ⟨.none, 200, [], [⟨.none, some twoLists⟩]⟩
    ∃ first second : SlotCall Nat,
      (client.perform call reply).progress.slotCalls = [first, second] ∧
      client.react.FailsAt client.listeners [first] second (.raised "slot") ∧
      (client.perform call reply).ending = .raised (.slot (.raised "slot")) ∧
      (client.perform call reply).progress.BrokenOff true [first] second ∧
      [first, second] <+: ((growingClient "http://localhost:8080" none).perform call
        reply).progress.slotCalls := by
  intro client call reply
  have hlength : (client.perform call reply).progress.slotCalls.length = 2 := by decide +kernel
  obtain ⟨first, second, hcalls⟩ := List.length_eq_two.mp hlength
  have hfails : client.react.FailsAt client.listeners [first] second (.raised "slot") := ⟨rfl, rfl⟩
  obtain ⟨hending, hbroken, hother⟩ := perform_slot_fails client call reply hcalls hfails
  refine ⟨first, second, hcalls, hfails, hending, hbroken, ?_⟩
  refine (hother (growingClient "http://localhost:8080" none).react fun past call hpast => ?_).1
  obtain rfl : past = [] := by
    have hle := hpast.length_le
    simp only [List.length_append, List.length_cons, List.length_nil] at hle
    exact List.length_eq_zero_iff.mp (by omega)
  rfl

end ConnectRpc.Call
