import ConnectRpc.Call.Transport

/-!
# What a script lets through

A script says at each point where a call waits how the call goes on there (`Action.turn`): the
transport does what it was asked to, fails, or does nothing for ever. Of a stream's chunks those
arrive that stand before the first that does not (`arrived`); how that one goes on, or that there is
none, is how reading the chunks ends (`lastTurn`). `cancelling` says whether the token is cancelled
on the way, the chunk that ends the reading included.

For chunks of which one is named as the first that does not arrive, `arrived_interrupted`,
`lastTurn_interrupted` and `cancelling_interrupted` say what the three come to.
-/

namespace ConnectRpc.Call

/-- How a call goes on where it waits. -/
inductive Turn where
  /-- The transport has done what it was asked to. -/
  | goesOn
  | fails (reason : String)
  | hangs
  deriving DecidableEq, Repr

/-- How a call goes on at an action: a transport that fails does not hang. -/
def Action.turn (action : Action) : Turn :=
  match action.failure with
  | .some reason => .fails reason
  | .none => if action.hangs then .hangs else .goesOn

theorem Action.turn_ne_of_fails {action : Action} {reason : String}
    (h : action.turn = .fails reason) : action.turn ≠ .goesOn := by simp [h]

theorem Action.turn_ne_of_hangs {action : Action} (h : action.turn = .hangs) :
    action.turn ≠ .goesOn := by simp [h]

/-- The octets that the chunks bring before the first that does not arrive. -/
def arrived : List Chunk → Bytes
  | [] => []
  | chunk :: rest =>
    match chunk.action.turn with
    | .goesOn => chunk.data.getD [] ++ arrived rest
    | _ => []

/-- How reading the chunks ends: at the first that does not arrive, or behind the last. -/
def lastTurn : List Chunk → Turn
  | [] => .goesOn
  | chunk :: rest =>
    match chunk.action.turn with
    | .goesOn => lastTurn rest
    | turn => turn

/-- The chunks cancel the call's token before reading them ends. -/
def cancelling : List Chunk → Bool
  | [] => false
  | chunk :: rest =>
    match chunk.action.turn with
    | .goesOn => chunk.action.cancels || cancelling rest
    | _ => chunk.action.cancels

section

variable {chunk : Chunk} (rest : List Chunk)

theorem arrived_of_goesOn (h : chunk.action.turn = .goesOn) :
    arrived (chunk :: rest) = chunk.data.getD [] ++ arrived rest := by
  simp only [arrived, h]

theorem arrived_of_ne (h : chunk.action.turn ≠ .goesOn) : arrived (chunk :: rest) = [] := by
  simp only [arrived]

theorem lastTurn_of_goesOn (h : chunk.action.turn = .goesOn) :
    lastTurn (chunk :: rest) = lastTurn rest := by
  simp only [lastTurn, h]

theorem lastTurn_of_ne (h : chunk.action.turn ≠ .goesOn) :
    lastTurn (chunk :: rest) = chunk.action.turn := by
  simp only [lastTurn]

theorem cancelling_of_goesOn (h : chunk.action.turn = .goesOn) :
    cancelling (chunk :: rest) = (chunk.action.cancels || cancelling rest) := by
  simp only [cancelling, h]

theorem cancelling_of_ne (h : chunk.action.turn ≠ .goesOn) :
    cancelling (chunk :: rest) = chunk.action.cancels := by
  simp only [cancelling]

end

/-! ## The first chunk that does not arrive -/

section

variable {before after : List Chunk} {chunk : Chunk}

theorem arrived_interrupted (hbefore : ∀ c ∈ before, c.action.turn = .goesOn)
    (hchunk : chunk.action.turn ≠ .goesOn) :
    arrived (before ++ chunk :: after) = (before.filterMap Chunk.data).flatten := by
  induction before with
  | nil => exact arrived_of_ne after hchunk
  | cons c rest ih =>
    obtain ⟨hc, hrest⟩ := List.forall_mem_cons.mp hbefore
    rw [List.cons_append, arrived_of_goesOn _ hc, ih hrest]
    cases hdata : c.data with
    | none => simp [hdata]
    | some data => simp [hdata]

theorem lastTurn_interrupted (hbefore : ∀ c ∈ before, c.action.turn = .goesOn)
    (hchunk : chunk.action.turn ≠ .goesOn) :
    lastTurn (before ++ chunk :: after) = chunk.action.turn := by
  induction before with
  | nil => exact lastTurn_of_ne after hchunk
  | cons c rest ih =>
    obtain ⟨hc, hrest⟩ := List.forall_mem_cons.mp hbefore
    rw [List.cons_append, lastTurn_of_goesOn _ hc, ih hrest]

theorem cancelling_interrupted (hbefore : ∀ c ∈ before, c.action.turn = .goesOn)
    (hchunk : chunk.action.turn ≠ .goesOn) :
    cancelling (before ++ chunk :: after) = (before ++ [chunk]).any (·.action.cancels) := by
  induction before with
  | nil =>
    rw [List.nil_append, cancelling_of_ne after hchunk]
    simp
  | cons c rest ih =>
    obtain ⟨hc, hrest⟩ := List.forall_mem_cons.mp hbefore
    rw [List.cons_append, cancelling_of_goesOn _ hc, ih hrest, List.cons_append, List.any_cons]

end

end ConnectRpc.Call
