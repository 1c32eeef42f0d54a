import ConnectRpc.Number.Numeral

/-!
# Signals

A signal is a list of slots. Emitting calls the slots that are registered when the emission begins,
in order and each as often as it occurs; what the slots do to the list while they run takes effect
at once but for the emission under way only as far as it changes the list that is left behind.

Slots are names of any type with decidable equality. How a slot reacts to being called is a
parameter: a list of reactions, the first failing one ending the emission. It may depend on the
slots that were called before, so that a slot may react differently each time.

* `Signal.connect`, `disconnect?`: registering at the end, removing the earliest equal slot.
* `callSlots`: calling slots whose reactions change a state, of whatever kind that state is.
* `Signal.emit`: the slots called, the list left behind, and the fault that ended the emission.
-/

namespace ConnectRpc.Call

/-- Something that a called slot does. -/
inductive Reaction (σ : Type) where
  | connect (slot : σ)
  | disconnect (slot : σ)
  | fail (reason : String)
  deriving DecidableEq, Repr

/-- Why a slot failed. -/
inductive SlotFault where
  /-- The slot's own failure. -/
  | raised (reason : String)
  /-- It removed a slot that is not registered. -/
  | notConnected
  deriving DecidableEq, Repr

/-- The wording of a slot's failure. -/
def SlotFault.message : SlotFault → String
  | .raised reason => reason
  | .notConnected => "list.remove(x): x not in list"

/-- A named list of slots. -/
structure Signal (σ : Type) where
  name : String
  slots : List σ
  deriving DecidableEq, Repr

/-- What an emission did. -/
structure Emission (S σ : Type) where
  /-- The slots that were called, in order. -/
  called : List σ
  /-- What their reactions made of the state. -/
  state : S
  /-- The failure that ended it, if one did. -/
  fault : Option SlotFault
  deriving DecidableEq, Repr

section

variable {S ρ σ : Type}

/-- The reactions of one call, up to the first that fails. -/
def applyReactions (apply : S → ρ → S × Option SlotFault) (state : S) :
    List ρ → S × Option SlotFault
  | [] => (state, none)
  | reaction :: rest =>
    match apply state reaction with
    | (state', some fault) => (state', some fault)
    | (state', none) => applyReactions apply state' rest

/-- Calls the slots of a list one after the other, up to the first that fails. Each reacts to the
slots called before it. -/
def callSlots (apply : S → ρ → S × Option SlotFault) (react : List σ → σ → List ρ) (state : S) :
    List σ → Emission S σ
  | [] => ⟨[], state, none⟩
  | slot :: rest =>
    match applyReactions apply state (react [] slot) with
    | (state', some fault) => ⟨[slot], state', some fault⟩
    | (state', none) =>
      let later := callSlots apply (fun before => react (slot :: before)) state' rest
      { later with called := slot :: later.called }

end

section

variable {σ : Type} [DecidableEq σ]

/-- One reaction of a slot, on the registered slots. -/
def Reaction.apply (slots : List σ) : Reaction σ → List σ × Option SlotFault
  | .connect slot => (slots ++ [slot], none)
  | .disconnect slot =>
    if slot ∈ slots then (slots.erase slot, none) else (slots, some .notConnected)
  | .fail reason => (slots, some (.raised reason))

namespace Signal

/-- A signal without slots. -/
def new (name : String) : Signal σ := ⟨name, []⟩

/-- Registers a slot. -/
def connect (s : Signal σ) (slot : σ) : Signal σ := { s with slots := s.slots ++ [slot] }

/-- Removes the earliest registration of a slot, if there is one. -/
def disconnect? (s : Signal σ) (slot : σ) : Option (Signal σ) :=
  if slot ∈ s.slots then some { s with slots := s.slots.erase slot } else none

/-- Calls the slots that are registered now. -/
def emit (react : List σ → σ → List (Reaction σ)) (s : Signal σ) : Emission (List σ) σ :=
  callSlots Reaction.apply react s.slots s.slots

end Signal

end

/-- How a signal is shown. -/
def Signal.text {σ : Type} (s : Signal σ) : String :=
  "<Signal " ++ s.name ++ " slots=" ++ Number.natText s.slots.length ++ ">"

end ConnectRpc.Call
