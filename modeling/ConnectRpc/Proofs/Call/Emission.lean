import ConnectRpc.Call.Client

/-!
# Emissions

Slots may connect and disconnect slots of the signal that is just calling them, or fail. This module
says what an emission does all the same, without following the calls: `Happens` relates the
registrations and an operation to the reactions made and to what the operation came to. An emission
goes in one of two ways. Either no reaction of the slots registered at its beginning fails; then all
of them are called. Or one of them has a reaction that fails; then the slots up to that one are
called. In both, the registrations left behind are the old ones with the reactions made applied in
their order, and what becomes of them meanwhile does not change which slots are called.

Signals act so, and in no other way, after every history of operations
(`Signal.history_emissions`). Each operation applies the reactions that are made in it
(`slots_operate`), so the registrations at any time are the first ones with all that was made since
(`slots_after`).

A behaviour is fixed for one emission and is any function of the slots called before. So slots may
react to what they are called with and to earlier emissions, and they may look at the registrations,
which follow from the calls (`foreseeing_eq`). One that catches the failure of a removal does as one
that looks, and leaves the removal out where it would fail.
-/

namespace ConnectRpc.Call

open Wire

variable {σ : Type}

/-! ## The slots of two signals -/

namespace Listeners

@[simp] theorem slots_signal_withSlots (l : Listeners σ) (target : Target) (slots : List σ) :
    ((l.withSlots target slots).signal target).slots = slots := by
  cases target <;> rfl

@[simp] theorem withSlots_withSlots (l : Listeners σ) (target : Target) (slots slots' : List σ) :
    (l.withSlots target slots).withSlots target slots' = l.withSlots target slots' := by
  cases target <;> rfl

@[simp] theorem withSlots_slots_signal (l : Listeners σ) (target : Target) :
    l.withSlots target (l.signal target).slots = l := by
  cases target <;> rfl

end Listeners

/-! ## Reactions in their order -/

/-- The reactions of slots that are called one after the other, to their end. -/
def reactionsOf (react : List σ → σ → List (Reaction σ)) : List σ → List (Reaction σ)
  | [] => []
  | slot :: rest => react [] slot ++ reactionsOf (fun before => react (slot :: before)) rest

theorem reactionsOf_append (react : List σ → σ → List (Reaction σ)) (before later : List σ) :
    reactionsOf react (before ++ later) =
      reactionsOf react before ++ reactionsOf (fun past => react (before ++ past)) later := by
  induction before generalizing react with
  | nil => rfl
  | cons slot rest ih => simp [reactionsOf, ih]

variable [DecidableEq σ]

/-- What a reaction makes of the registrations. A removal takes the earliest registration of the
slot; one that fails changes nothing. -/
def Reaction.edit (slots : List σ) : Reaction σ → List σ
  | .connect slot => slots ++ [slot]
  | .disconnect slot => slots.erase slot
  | .fail _ => slots

/-- Whether a reaction fails, given the registrations. -/
def Reaction.fault? (slots : List σ) : Reaction σ → Option SlotFault
  | .connect _ => none
  | .disconnect slot => if slot ∈ slots then none else some .notConnected
  | .fail reason => some (.raised reason)

theorem Reaction.edit_earliest {slot : σ} {front : List σ} (h : slot ∉ front) (back : List σ) :
    Reaction.edit (front ++ slot :: back) (.disconnect slot) = front ++ back := by
  simp [edit, List.erase_append_right, h]

theorem Reaction.edit_unregistered {slot : σ} {slots : List σ} (h : slot ∉ slots) :
    Reaction.edit slots (.disconnect slot) = slots :=
  List.erase_of_not_mem h

theorem Reaction.apply_eq (slots : List σ) (reaction : Reaction σ) :
    reaction.apply slots = (reaction.edit slots, reaction.fault? slots) := by
  cases reaction with
  | connect slot => rfl
  | disconnect slot =>
    by_cases h : slot ∈ slots
    · simp [Reaction.apply, edit, fault?, h]
    · simp [Reaction.apply, fault?, h, edit_unregistered h]
  | fail reason => rfl

/-- The registrations after several reactions. -/
def editAll (slots : List σ) (reactions : List (Reaction σ)) : List σ :=
  reactions.foldl Reaction.edit slots

@[simp] theorem editAll_nil (slots : List σ) : editAll slots [] = slots := rfl

@[simp] theorem editAll_cons (slots : List σ) (reaction : Reaction σ)
    (rest : List (Reaction σ)) :
    editAll slots (reaction :: rest) = editAll (reaction.edit slots) rest := rfl

@[simp] theorem editAll_append (slots : List σ) (reactions more : List (Reaction σ)) :
    editAll slots (reactions ++ more) = editAll (editAll slots reactions) more :=
  List.foldl_append

/-- None of the reactions fails when its turn comes. -/
def Smooth (slots : List σ) (reactions : List (Reaction σ)) : Prop :=
  ∀ front reaction later, reactions = front ++ reaction :: later →
    reaction.fault? (editAll slots front) = none

theorem smooth_nil (slots : List σ) : Smooth slots [] := by
  intro front reaction later h
  simp at h

theorem smooth_cons {slots : List σ} {reaction : Reaction σ} {rest : List (Reaction σ)} :
    Smooth slots (reaction :: rest) ↔
      reaction.fault? slots = none ∧ Smooth (reaction.edit slots) rest := by
  constructor
  · intro h
    refine ⟨h [] reaction rest rfl, ?_⟩
    intro front next later heq
    exact h (reaction :: front) next later (by rw [heq]; rfl)
  · rintro ⟨hfirst, hrest⟩ front next later heq
    cases front with
    | nil =>
      obtain ⟨rfl, rfl⟩ : reaction = next ∧ rest = later := by simpa using heq
      exact hfirst
    | cons other front =>
      obtain ⟨rfl, rfl⟩ : reaction = other ∧ rest = front ++ next :: later := by simpa using heq
      exact hrest front next later rfl

theorem smooth_append {slots : List σ} {reactions more : List (Reaction σ)} :
    Smooth slots (reactions ++ more) ↔
      Smooth slots reactions ∧ Smooth (editAll slots reactions) more := by
  induction reactions generalizing slots with
  | nil => simp [smooth_nil]
  | cons reaction rest ih => simp [smooth_cons, ih, and_assoc]

/-- The reactions through the first that fails. -/
def throughFault (slots : List σ) : List (Reaction σ) → List (Reaction σ)
  | [] => []
  | reaction :: rest =>
    reaction :: if reaction.fault? slots = none then throughFault (reaction.edit slots) rest else []

theorem throughFault_of_smooth {slots : List σ} {reactions : List (Reaction σ)}
    (h : Smooth slots reactions) : throughFault slots reactions = reactions := by
  induction reactions generalizing slots with
  | nil => rfl
  | cons reaction rest ih =>
    obtain ⟨hfirst, hrest⟩ := smooth_cons.mp h
    simp [throughFault, hfirst, ih hrest]

theorem throughFault_of_fails {slots : List σ} {front : List (Reaction σ)} {failing : Reaction σ}
    {fault : SlotFault} (hfront : Smooth slots front)
    (hfails : failing.fault? (editAll slots front) = some fault) (later : List (Reaction σ)) :
    throughFault slots (front ++ failing :: later) = front ++ [failing] := by
  induction front generalizing slots with
  | nil => simp_all [throughFault]
  | cons reaction rest ih =>
    obtain ⟨hfirst, hrest⟩ := smooth_cons.mp hfront
    simp [throughFault, hfirst, ih hrest hfails]

/-- Either no reaction fails, or there is a first that does. -/
theorem smooth_or_fails (slots : List σ) (reactions : List (Reaction σ)) :
    Smooth slots reactions ∨ ∃ front failing later fault, reactions = front ++ failing :: later ∧
      Smooth slots front ∧ failing.fault? (editAll slots front) = some fault := by
  induction reactions generalizing slots with
  | nil => exact .inl (smooth_nil slots)
  | cons reaction rest ih =>
    cases hfirst : reaction.fault? slots with
    | some fault => exact .inr ⟨[], reaction, rest, fault, rfl, smooth_nil slots, hfirst⟩
    | none =>
      rcases ih (reaction.edit slots) with
        hrest | ⟨front, failing, later, fault, rfl, hfront, hfails⟩
      · exact .inl (smooth_cons.mpr ⟨hfirst, hrest⟩)
      · exact .inr ⟨reaction :: front, failing, later, fault, rfl,
          smooth_cons.mpr ⟨hfirst, hfront⟩, hfails⟩

/-! ## Calls of slots -/

theorem applyReactions_of_smooth {slots : List σ} {reactions : List (Reaction σ)}
    (h : Smooth slots reactions) :
    applyReactions Reaction.apply slots reactions = (editAll slots reactions, none) := by
  induction reactions generalizing slots with
  | nil => rfl
  | cons reaction rest ih =>
    obtain ⟨hfirst, hrest⟩ := smooth_cons.mp h
    simp [applyReactions, Reaction.apply_eq, hfirst, ih hrest]

theorem applyReactions_of_fails {slots : List σ} {front : List (Reaction σ)}
    {failing : Reaction σ} {fault : SlotFault} (hfront : Smooth slots front)
    (hfails : failing.fault? (editAll slots front) = some fault) (later : List (Reaction σ)) :
    applyReactions Reaction.apply slots (front ++ failing :: later) =
      (editAll slots (front ++ [failing]), some fault) := by
  induction front generalizing slots with
  | nil => simp_all [applyReactions, Reaction.apply_eq]
  | cons reaction rest ih =>
    obtain ⟨hfirst, hrest⟩ := smooth_cons.mp hfront
    simp [applyReactions, Reaction.apply_eq, hfirst, ih hrest hfails]

/-- Slots that do not fail are all called, and then the later ones. -/
theorem callSlots_append_of_smooth {react : List σ → σ → List (Reaction σ)} {now before : List σ}
    (h : Smooth now (reactionsOf react before)) (later : List σ) :
    callSlots Reaction.apply react now (before ++ later) =
      let e := callSlots Reaction.apply (fun past => react (before ++ past))
        (editAll now (reactionsOf react before)) later
      { e with called := before ++ e.called } := by
  induction before generalizing react now with
  | nil => rfl
  | cons slot rest ih =>
    obtain ⟨hfirst, hrest⟩ := smooth_append.mp h
    simp [callSlots, applyReactions_of_smooth hfirst, ih hrest, reactionsOf]

theorem callSlots_of_smooth {react : List σ → σ → List (Reaction σ)} {now slots : List σ}
    (h : Smooth now (reactionsOf react slots)) :
    callSlots Reaction.apply react now slots =
      ⟨slots, editAll now (reactionsOf react slots), none⟩ := by
  simpa [callSlots] using callSlots_append_of_smooth h []

/-- A slot that fails is the last one called. -/
theorem callSlots_of_fails {react : List σ → σ → List (Reaction σ)} {now before : List σ} {slot : σ}
    {front later : List (Reaction σ)} {failing : Reaction σ} {fault : SlotFault}
    (hreact : react before slot = front ++ failing :: later)
    (hsmooth : Smooth now (reactionsOf react before ++ front))
    (hfails : failing.fault? (editAll now (reactionsOf react before ++ front)) = some fault)
    (rest : List σ) :
    callSlots Reaction.apply react now (before ++ slot :: rest) =
      ⟨before ++ [slot], editAll now (reactionsOf react before ++ front ++ [failing]),
        some fault⟩ := by
  obtain ⟨hbefore, hfront⟩ := smooth_append.mp hsmooth
  rw [editAll_append] at hfails
  rw [callSlots_append_of_smooth hbefore]
  simp [callSlots, hreact, applyReactions_of_fails hfront hfails]

/-- Slots that are called one after the other do not fail, or one of them is the first that does. -/
theorem smooth_or_brokenOff (react : List σ → σ → List (Reaction σ)) (now slots : List σ) :
    Smooth now (reactionsOf react slots) ∨
      ∃ before slot rest front failing later fault, slots = before ++ slot :: rest ∧
        react before slot = front ++ failing :: later ∧
        Smooth now (reactionsOf react before ++ front) ∧
        failing.fault? (editAll now (reactionsOf react before ++ front)) = some fault := by
  -- The slots called stay the same along the induction; the registrations do not.
  induction slots generalizing react now with
  | nil => exact .inl (smooth_nil now)
  | cons slot rest ih =>
    rcases smooth_or_fails now (react [] slot) with
      hfirst | ⟨front, failing, later, fault, hreact, hfront, hfails⟩
    · rcases ih (fun past => react (slot :: past)) (editAll now (react [] slot)) with
        hrest | ⟨before, next, more, front, failing, later, fault, rfl, hreact, hfront, hfails⟩
      · exact .inl (smooth_append.mpr ⟨hfirst, hrest⟩)
      · refine .inr ⟨slot :: before, next, more, front, failing, later, fault, rfl, hreact, ?_, ?_⟩
        · rw [reactionsOf, List.append_assoc]
          exact smooth_append.mpr ⟨hfirst, hfront⟩
        · rwa [reactionsOf, List.append_assoc, editAll_append]
    · exact .inr ⟨[], slot, rest, front, failing, later, fault, rfl, hreact, hfront, hfails⟩

/-! ## Slots that look at the registrations -/

/-- Slots that know only which slots were called before them can do what slots do that also look at
the registrations: these follow from the calls. -/
def foreseeing (aware : List σ → List σ → σ → List (Reaction σ)) (now : List σ) :
    List σ → σ → List (Reaction σ)
  | [], slot => aware [] now slot
  | first :: rest, slot =>
    foreseeing (fun past => aware (first :: past)) (editAll now (aware [] now first)) rest slot

theorem foreseeing_eq (aware : List σ → List σ → σ → List (Reaction σ)) (now before : List σ)
    (slot : σ) :
    foreseeing aware now before slot =
      aware before (editAll now (reactionsOf (foreseeing aware now) before)) slot := by
  induction before generalizing aware now with
  | nil => rfl
  | cons first rest ih => simp [foreseeing, reactionsOf, ih]

/-! ## Operations on a signal -/

namespace Signal

/-- Something that is done to a signal. -/
inductive Operation (σ : Type) where
  | connect (slot : σ)
  | disconnect (slot : σ)
  /-- An emission, to slots that behave in a certain way. -/
  | emit (react : List σ → σ → List (Reaction σ))

/-- What an operation comes to: the slots called, the registrations left behind, the failure. -/
def outcome (s : Signal σ) : Operation σ → Emission (List σ) σ
  | .connect slot => ⟨[], (s.connect slot).slots, none⟩
  | .disconnect slot =>
    match s.disconnect? slot with
    | some s' => ⟨[], s'.slots, none⟩
    | none => ⟨[], s.slots, some .notConnected⟩
  | .emit react => s.emit react

/-- The signal after an operation. -/
def operate (s : Signal σ) (operation : Operation σ) : Signal σ :=
  { s with slots := (s.outcome operation).state }

/-- The signal after several operations. -/
def after (s : Signal σ) (history : List (Operation σ)) : Signal σ := history.foldl operate s

/-- The reactions made in an operation, by the caller or by the slots called. -/
def made (s : Signal σ) : Operation σ → List (Reaction σ)
  | .connect slot => [.connect slot]
  | .disconnect slot => [.disconnect slot]
  | .emit react => throughFault s.slots (reactionsOf react s.slots)

/-- The reactions made in several operations. -/
def madeIn (s : Signal σ) : List (Operation σ) → List (Reaction σ)
  | [] => []
  | operation :: later => s.made operation ++ (s.operate operation).madeIn later

/-- What operations do where certain slots are registered: the reactions made, and what it comes
to. -/
inductive Happens (slots : List σ) :
    Operation σ → List (Reaction σ) → Emission (List σ) σ → Prop where
  | connected (slot : σ) : Happens slots (.connect slot) [.connect slot] ⟨[], slots ++ [slot], none⟩
  /-- The earliest registration of the slot is removed. -/
  | disconnected {slot : σ} {front back : List σ} (registered : slots = front ++ slot :: back)
      (earliest : slot ∉ front) :
      Happens slots (.disconnect slot) [.disconnect slot] ⟨[], front ++ back, none⟩
  /-- A slot that is not registered cannot be removed. -/
  | notConnected {slot : σ} (unregistered : slot ∉ slots) :
      Happens slots (.disconnect slot) [.disconnect slot] ⟨[], slots, some .notConnected⟩
  /-- No reaction fails, and the slots registered at the beginning are called. -/
  | emitted {react : List σ → σ → List (Reaction σ)}
      (smooth : Smooth slots (reactionsOf react slots)) :
      Happens slots (.emit react) (reactionsOf react slots)
        ⟨slots, editAll slots (reactionsOf react slots), none⟩
  /-- A reaction of one of them fails, and no slot behind it is called. -/
  | brokenOff {react : List σ → σ → List (Reaction σ)} {before rest : List σ} {slot : σ}
      {front later : List (Reaction σ)} {failing : Reaction σ} {fault : SlotFault}
      (registered : slots = before ++ slot :: rest)
      (reactions : react before slot = front ++ failing :: later)
      (smooth : Smooth slots (reactionsOf react before ++ front))
      (fails : failing.fault? (editAll slots (reactionsOf react before ++ front)) = some fault) :
      Happens slots (.emit react) (reactionsOf react before ++ front ++ [failing])
        ⟨before ++ [slot], editAll slots (reactionsOf react before ++ front ++ [failing]),
          some fault⟩

theorem Happens.eq {s : Signal σ} {operation : Operation σ} {made : List (Reaction σ)}
    {e : Emission (List σ) σ} (h : Happens s.slots operation made e) :
    made = s.made operation ∧ e = s.outcome operation := by
  cases h with
  | connected slot => exact ⟨rfl, rfl⟩
  | disconnected registered earliest =>
    simp [Signal.made, outcome, disconnect?, registered, List.erase_append_right, earliest]
  | notConnected unregistered => simp [Signal.made, outcome, disconnect?, unregistered]
  | emitted smooth =>
    exact ⟨(throughFault_of_smooth smooth).symm, (callSlots_of_smooth smooth).symm⟩
  | @brokenOff react before rest slot front later failing fault registered reactions smooth fails =>
    -- The slots behind the one that fails would have reactions of their own, which are not made.
    have hcalled := callSlots_of_fails reactions smooth fails rest
    rw [← registered] at hcalled
    have hreactions : reactionsOf react s.slots = reactionsOf react before ++ front ++
        failing :: (later ++ reactionsOf (fun past => react (before ++ slot :: past)) rest) := by
      rw [registered, reactionsOf_append]
      simp [reactionsOf, reactions]
    refine ⟨?_, hcalled.symm⟩
    rw [Signal.made, hreactions, throughFault_of_fails smooth fails]

theorem exists_happens (s : Signal σ) (operation : Operation σ) :
    ∃ made e, Happens s.slots operation made e := by
  cases operation with
  | connect slot => exact ⟨_, _, .connected slot⟩
  | disconnect slot =>
    by_cases hmem : slot ∈ s.slots
    · obtain ⟨front, back, hslots, hfirst⟩ := List.eq_append_cons_of_mem hmem
      exact ⟨_, _, .disconnected hslots hfirst⟩
    · exact ⟨_, _, .notConnected hmem⟩
  | emit react =>
    rcases smooth_or_brokenOff react s.slots s.slots with
      hsmooth | ⟨before, slot, rest, front, failing, later, fault, hslots, hreact, hsmooth, hfails⟩
    · exact ⟨_, _, .emitted hsmooth⟩
    · exact ⟨_, _, .brokenOff hslots hreact hsmooth hfails⟩

/-- **A step.** What happens to a signal is what an operation is said to do there. -/
theorem happens_iff {s : Signal σ} {operation : Operation σ} {made : List (Reaction σ)}
    {e : Emission (List σ) σ} :
    Happens s.slots operation made e ↔ made = s.made operation ∧ e = s.outcome operation := by
  refine ⟨Happens.eq, ?_⟩
  rintro ⟨rfl, rfl⟩
  obtain ⟨made, e, h⟩ := exists_happens s operation
  obtain ⟨rfl, rfl⟩ := h.eq
  exact h

/-- The registrations are changed by the reactions made, in their order. -/
theorem Happens.state_eq {slots : List σ} {operation : Operation σ} {made : List (Reaction σ)}
    {e : Emission (List σ) σ} (h : Happens slots operation made e) :
    e.state = editAll slots made := by
  cases h with
  | connected slot => rfl
  | disconnected registered earliest => simp [registered, Reaction.edit_earliest earliest]
  | notConnected unregistered => simp [Reaction.edit_unregistered unregistered]
  | emitted smooth => rfl
  | brokenOff registered reactions smooth fails => rfl

/-- An emission calls slots registered at its beginning, and all of them if none fails. -/
theorem Happens.calls {slots : List σ} {react : List σ → σ → List (Reaction σ)}
    {made : List (Reaction σ)} {e : Emission (List σ) σ} (h : Happens slots (.emit react) made e) :
    e.called <+: slots ∧ (e.fault = none → e.called = slots) := by
  cases h with
  | emitted smooth => simp
  | @brokenOff _ before rest slot _ _ _ _ registered reactions smooth fails =>
    refine ⟨⟨rest, ?_⟩, by simp⟩
    simp [registered]

theorem slots_operate (s : Signal σ) (operation : Operation σ) :
    (s.operate operation).slots = editAll s.slots (s.made operation) :=
  (happens_iff.mpr ⟨rfl, rfl⟩).state_eq

/-- **A history.** The registrations are the first ones with everything made since. -/
theorem slots_after (s : Signal σ) (history : List (Operation σ)) :
    (s.after history).slots = editAll s.slots (s.madeIn history) := by
  induction history generalizing s with
  | nil => rfl
  | cons operation later ih =>
    have hlater : (s.after (operation :: later)).slots = _ := ih (s.operate operation)
    rw [hlater, slots_operate, madeIn, editAll_append]

theorem emit_calls (s : Signal σ) (react : List σ → σ → List (Reaction σ)) :
    (s.emit react).called <+: s.slots ∧
      ((s.emit react).fault = none → (s.emit react).called = s.slots) :=
  (happens_iff.mpr ⟨rfl, rfl⟩ : Happens s.slots (.emit react) _ _).calls

end Signal

/-! ## Emissions in the course of a call -/

namespace Listeners

/-- Reactions on one signal change the slots of that one. -/
theorem applyReactions_map (l : Listeners σ) (target : Target) (reactions : List (Reaction σ)) :
    applyReactions Listeners.apply l (reactions.map (target, ·)) =
      let result := applyReactions Reaction.apply (l.signal target).slots reactions
      (l.withSlots target result.1, result.2) := by
  induction reactions generalizing l with
  | nil => simp [applyReactions]
  | cons reaction rest ih =>
    simp only [List.map_cons, applyReactions, Listeners.apply, Reaction.apply_eq]
    cases reaction.fault? (l.signal target).slots with
    | none => simp [ih]
    | some fault => rfl

theorem callSlots_map (l : Listeners σ) (target : Target)
    (react : List σ → σ → List (Reaction σ)) (slots : List σ) :
    callSlots Listeners.apply (fun called slot => (react called slot).map (target, ·)) l slots =
      let e := callSlots Reaction.apply react (l.signal target).slots slots
      ⟨e.called, l.withSlots target e.state, e.fault⟩ := by
  induction slots generalizing l react with
  | nil => simp [callSlots]
  | cons slot rest ih =>
    simp only [callSlots, applyReactions_map]
    cases applyReactions Reaction.apply (l.signal target).slots (react [] slot) with
    | mk state fault =>
      cases fault with
      | none => simp [ih]
      | some fault => rfl

/-- An item emitted in a call, to slots that react on its signal only, is an emission of that
signal. -/
theorem emit_eq (l : Listeners σ) (target : Target) {behaviour : Behaviour σ}
    {past : List (SlotCall σ)} {item : StreamItem} {react : List σ → σ → List (Reaction σ)}
    (h : ∀ called slot, behaviour (past ++ called.map (⟨target, ·, item⟩)) ⟨target, slot, item⟩ =
      (react called slot).map (target, ·)) :
    l.emit behaviour past target item =
      let e := (l.signal target).emit react
      ⟨e.called, l.withSlots target e.state, e.fault⟩ := by
  unfold Listeners.emit
  simp only [h]
  exact callSlots_map l target react (l.signal target).slots

end Listeners

/-- **Every emission calls the slots that are registered when it begins.** After any history of
operations the registrations are the first ones with all reactions made since, in their order. An
operation then does what `Happens` says, and nothing else. In particular an emission calls the slots
registered at its beginning, in their order and as often as they occur, up to the first that fails,
whatever slots they connect and disconnect; that shows in the registrations left behind, and so in
the next emission. The slots may look at the registrations. And an item emitted in the course of a
call is emitted in the same way. -/
theorem Signal.history_emissions (s : Signal σ) (history : List (Operation σ)) :
    let now := s.after history
    now.slots = editAll s.slots (s.madeIn history) ∧
    (∀ operation made e, Happens now.slots operation made e ↔
      made = now.made operation ∧ e = now.outcome operation) ∧
    (∀ react, let e := now.emit react
      let next := now.operate (.emit react)
      e.called <+: now.slots ∧ (e.fault = none → e.called = now.slots) ∧
      next.slots = editAll now.slots (now.made (.emit react)) ∧
      ∀ react', (next.emit react').called <+: next.slots ∧
        ((next.emit react').fault = none → (next.emit react').called = next.slots)) ∧
    (∀ aware : List σ → List σ → σ → List (Reaction σ), ∃ react, ∀ before slot,
      react before slot = aware before (editAll now.slots (reactionsOf react before)) slot) ∧
    ∀ (l : Listeners σ) (target : Target), l.signal target = now →
      ∀ (behaviour : Behaviour σ) (past : List (SlotCall σ)) (item : StreamItem)
        (react : List σ → σ → List (Reaction σ)),
        (∀ called slot, behaviour (past ++ called.map (⟨target, ·, item⟩)) ⟨target, slot, item⟩ =
          (react called slot).map (target, ·)) →
        l.emit behaviour past target item = ⟨(now.emit react).called,
          l.withSlots target (now.emit react).state, (now.emit react).fault⟩ := by
  intro now
  refine ⟨slots_after s history, fun _ _ _ => happens_iff, ?_, ?_, ?_⟩
  · intro react e next
    obtain ⟨hcalled, hall⟩ := now.emit_calls react
    exact ⟨hcalled, hall, now.slots_operate (.emit react), next.emit_calls⟩
  · intro aware
    exact ⟨foreseeing aware now.slots, foreseeing_eq aware now.slots⟩
  · intro l target hsignal behaviour past item react hreact
    rw [← hsignal]
    exact l.emit_eq target hreact

/-- Slots that are registered twice and remove themselves, and one that connects another. -/
example :
    let s : Signal String := ⟨"answered", ["once", "once", "chain"]⟩
    s.emit (fun _ slot => if slot = "once" then [.disconnect slot] else [.connect "added"]) =
      ⟨["once", "once", "chain"], ["chain", "added"], none⟩ := by
  decide

end ConnectRpc.Call
