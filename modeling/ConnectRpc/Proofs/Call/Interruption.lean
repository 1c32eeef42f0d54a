import ConnectRpc.Proofs.Call.Records
import ConnectRpc.Proofs.Call.Untimed

/-!
# Interrupted streams

A stream that is taken as it arrives may be interrupted at any chunk: the transport fails there, or
hangs until the call is given up. What has arrived before stays delivered, and the interruption is
reported once, behind it. If a complete final frame has arrived before, the stream is over by then,
and the interruption is not even noticed.

On the other side, a transport that never hangs leaves nothing for a deadline or a token to
interrupt, whatever the call. Both are stated in `perform_interrupted`.

`Interrupted` names the chunk, and `Interrupts` what is to be reported of it. The octets before the
chunk give the items that any octets that go on from there give first, and none that is reported of
an incomplete frame (`StreamParser.feed_prefix_parseStream`, `feed_ne_incomplete`).
-/

namespace ConnectRpc.Call

open Wire

variable {σ : Type}

/-- The octets of several chunks. -/
def octets (chunks : List Chunk) : Bytes := (chunks.filterMap Chunk.data).flatten

/-- A call takes a stream as it arrives, the stream is answered with a success, and `chunk`, with
the chunks `before` it, is the first that does not arrive. -/
structure Interrupted (client : Client σ) (call : Call) (reply : Reply) (text : String)
    (before : List Chunk) (chunk : Chunk) : Prop where
  sends : client.Sends call text
  shape : call.shape = .stream
  incremental : client.config.incremental = true
  streams : client.streams = true
  answered : reply.action.turn = .goesOn
  success : isSuccess reply.status = true
  chunks : ∃ after, reply.chunks = before ++ chunk :: after
  arrive : ∀ c ∈ before, c.action.turn = .goesOn
  stops : chunk.action.turn ≠ .goesOn

/-- The token has been cancelled when the call waits for the chunk. -/
def CancelledBy (call : Call) (reply : Reply) (before : List Chunk) (chunk : Chunk) : Prop :=
  call.token ≠ .absent ∧
    (reply.action.cancels = true ∨ ∃ c ∈ before ++ [chunk], c.action.cancels = true)

/-- What is to be reported of a chunk that does not arrive. -/
inductive Interrupts (client : Client σ) (call : Call) (reply : Reply) (before : List Chunk)
    (chunk : Chunk) : Failure → Prop
  | failed {reason : String} (fails : chunk.action.turn = .fails reason) :
      Interrupts client call reply before chunk (.streamInterrupted reason)
  | cancelled (hangs : chunk.action.turn = .hangs)
      (cancelled : CancelledBy call reply before chunk) :
      Interrupts client call reply before chunk .cancelled
  | deadlineExceeded {seconds : Value} (hangs : chunk.action.turn = .hangs)
      (uncancelled : ¬ CancelledBy call reply before chunk)
      (deadline : client.deadline? call = some seconds) :
      Interrupts client call reply before chunk (.deadlineExceeded seconds)

/-- Something is to be reported of a chunk that does not arrive, unless the call hangs there with
nothing to give it up. -/
theorem exists_interrupts {client : Client σ} {call : Call} {reply : Reply} {before : List Chunk}
    {chunk : Chunk} (hstops : chunk.action.turn ≠ .goesOn)
    (hends : chunk.action.turn = .hangs →
      CancelledBy call reply before chunk ∨ client.deadline? call ≠ none) :
    ∃ failure, Interrupts client call reply before chunk failure := by
  cases hturn : chunk.action.turn with
  | goesOn => exact absurd hturn hstops
  | fails reason => exact ⟨_, .failed hturn⟩
  | hangs =>
    by_cases hcancelled : CancelledBy call reply before chunk
    · exact ⟨_, .cancelled hturn hcancelled⟩
    · obtain ⟨seconds, hseconds⟩ :=
        Option.ne_none_iff_exists'.mp ((hends hturn).resolve_left hcancelled)
      exact ⟨_, .deadlineExceeded hturn hcancelled hseconds⟩

namespace Interrupted

variable {client : Client σ} {call : Call} {reply : Reply} {text : String} {before : List Chunk}
  {chunk : Chunk}

theorem via (h : Interrupted client call reply text before chunk) :
    (requestOf client call text).via = .stream := by
  simp [requestOf, h.shape, h.incremental, h.streams]

theorem arrived_eq (h : Interrupted client call reply text before chunk) :
    arrived reply.chunks = octets before := by
  obtain ⟨after, hchunks⟩ := h.chunks
  rw [hchunks, arrived_interrupted h.arrive h.stops, octets]

theorem lastTurn_eq (h : Interrupted client call reply text before chunk) :
    lastTurn reply.chunks = chunk.action.turn := by
  obtain ⟨after, hchunks⟩ := h.chunks
  rw [hchunks, lastTurn_interrupted h.arrive h.stops]

theorem receptionOf_eq (h : Interrupted client call reply text before chunk) :
    receptionOf call reply (requestOf client call text) = reading .empty reply.chunks := by
  rw [receptionOf_answered h.shape h.answered h.success, h.via]

theorem cancelling_iff (h : Interrupted client call reply text before chunk) :
    (cancelling (pointsOf call reply (requestOf client call text)) && call.token != .absent) =
        true ↔
      CancelledBy call reply before chunk := by
  obtain ⟨after, hchunks⟩ := h.chunks
  have hpoints : pointsOf call reply (requestOf client call text) =
      reply.opening :: (before ++ chunk :: after) := by
    unfold pointsOf
    rw [h.shape, h.via, hchunks]
  have hopening : reply.opening.action.turn = .goesOn := h.answered
  rw [hpoints, cancelling_of_goesOn _ hopening, cancelling_interrupted h.arrive h.stops]
  simp only [CancelledBy, Reply.opening, Bool.and_eq_true, Bool.or_eq_true, List.any_eq_true,
    bne_iff_ne]
  exact and_comm

/-- A call that hangs at the chunk is given up with what is to be reported of it. -/
theorem conclusion?_eq (h : Interrupted client call reply text before chunk) {failure : Failure}
    (hfailure : Interrupts client call reply before chunk failure)
    (hhangs : chunk.action.turn = .hangs) :
    client.conclusion? call reply (requestOf client call text) = some failure := by
  unfold Client.conclusion?
  cases hfailure with
  | failed fails => rw [hhangs] at fails; cases fails
  | cancelled hangs cancelled => rw [if_pos (h.cancelling_iff.mpr cancelled)]
  | deadlineExceeded hangs uncancelled deadline =>
    rw [if_neg (mt h.cancelling_iff.mp uncancelled), deadline, Option.map_some]

variable [DecidableEq σ]

/-- An interruption behind a final frame is not noticed. -/
theorem shows_of_final (h : Interrupted client call reply text before chunk)
    (hslots : client.NoSlotFails call reply) (hfinal : HoldsFinal (octets before)) :
    (client.perform call reply).Shows call.signalled .returned [requestOf client call text]
      (parseStream (octets before)) := by
  have hfinished := StreamParser.feed_finished_iff.mpr hfinal
  have hshows := h.sends.shows hslots
  simpa only [h.receptionOf_eq, reading, h.arrived_eq, hfinished, if_true, Reception.ending,
    Reception.concluded, Bool.false_and, Bool.false_eq_true, if_false, List.append_nil,
    ← StreamParser.parseStream_of_finished hfinished] using hshows

/-- An interruption is reported behind what has arrived. -/
theorem shows (h : Interrupted client call reply text before chunk)
    (hslots : client.NoSlotFails call reply) (hopen : ¬ HoldsFinal (octets before))
    {failure : Failure} (hfailure : Interrupts client call reply before chunk failure) :
    (client.perform call reply).Shows call.signalled .returned [requestOf client call text]
      ((StreamParser.empty.feed (octets before)).1 ++ [.failure failure]) := by
  have hunfinished := Bool.eq_false_iff.mpr (mt StreamParser.feed_finished_iff.mp hopen)
  have hshows := h.sends.shows hslots
  simp only [h.receptionOf_eq, reading, h.arrived_eq, h.lastTurn_eq, hunfinished,
    Bool.false_eq_true, if_false] at hshows
  cases hturn : chunk.action.turn with
  | goesOn => exact absurd hturn h.stops
  | fails reason =>
    cases hfailure with
    | failed fails =>
      rw [hturn] at fails
      cases fails
      simpa only [hturn, Reception.ending, Reception.concluded, Bool.false_and, Bool.false_eq_true,
        if_false, List.append_nil] using hshows
    | cancelled hangs => rw [hturn] at hangs; cases hangs
    | deadlineExceeded hangs => rw [hturn] at hangs; cases hangs
  | hangs =>
    simpa only [hturn, h.conclusion?_eq hfailure hturn, Reception.ending, Reception.concluded,
      Option.isNone_some, Bool.and_false, Bool.false_eq_true, if_false, if_true,
      Option.toList_some, List.map_singleton] using hshows

end Interrupted

/-! ## Calls -/

/-- **Interrupted streams keep what has arrived and report once.** Of an interrupted stream that
holds a complete final frame before the chunk that does not arrive, the call returns with the items
of the octets before. Otherwise it returns with the items that these octets give, which any octets
that go on from there give first and among which no frame is incomplete, and then with the one
failure that is to be reported, unless it hangs with neither a cancelled token nor a deadline to
give it up.

A call of any shape whose transport never hangs ends, and ends the same and with the same records
whatever deadline and whatever token are given, or without them. -/
theorem perform_interrupted [DecidableEq σ] (client : Client σ) (call : Call) (reply : Reply) :
    (∀ text before chunk, Interrupted client call reply text before chunk →
      client.NoSlotFails call reply →
        let items := (StreamParser.empty.feed (octets before)).1
        (HoldsFinal (octets before) →
          (client.perform call reply).Shows call.signalled .returned [requestOf client call text]
            (parseStream (octets before))) ∧
        (¬ HoldsFinal (octets before) →
          (chunk.action.turn = .hangs →
            CancelledBy call reply before chunk ∨ client.deadline? call ≠ none) →
          ∃ failure, Interrupts client call reply before chunk failure ∧
            (client.perform call reply).Shows call.signalled .returned [requestOf client call text]
              (items ++ [.failure failure])) ∧
        (∀ more, items <+: parseStream (octets before ++ more)) ∧
        ∀ expected received, .failure (.incompleteMessage expected received) ∉ items) ∧
    (reply.NeverHangs → Acceptable (client.deadline? call) call.token →
      ∀ timeout timeout' token, Acceptable (timeout' <|> timeout) token →
        let retimed := (client.retimed timeout).perform (call.retimed timeout' token) reply
        (client.perform call reply).ending ≠ .pending ∧
          (client.perform call reply).ending = retimed.ending ∧
          SameButToken (client.perform call reply).progress retimed.progress) := by
  refine ⟨fun text before chunk h hslots => ⟨h.shows_of_final hslots, fun hopen hends => ?_,
      StreamParser.feed_prefix_parseStream _, StreamParser.feed_ne_incomplete _⟩,
    fun hreply haccepted timeout timeout' token haccepted' =>
      untimed_perform hreply haccepted haccepted'⟩
  obtain ⟨failure, hfailure⟩ := exists_interrupts h.stops hends
  exact ⟨failure, hfailure, h.shows hslots hopen hfailure⟩

theorem listThenHeader_open : ¬ HoldsFinal listThenHeader := by
  rw [← StreamParser.feed_finished_iff, (StreamParser.feed_framing listThenHeader_framing).2]
  decide

/-- The token is cancelled while the call waits inside a frame, behind one that holds a list, and
slots connect others: the list is kept, and the cancellation reported once. Where the transport
fails there instead, the deadline and the token make no difference. -/
theorem perform_interrupted_cancelled_in_header :
    let client := growingClient "http://localhost:8080" (some (.int 5))
    let call : Call := { emptyCall .stream with token := .fresh }
    let before : List Chunk := [⟨.none, some listThenHeader⟩]
    let hanging : Reply := ⟨.none, 200, [], before ++ [⟨⟨true, none, true⟩, none⟩]⟩
    let failing : Reply :=
      ⟨.none, 200, [], before ++ [⟨⟨true, some "connection reset", true⟩, none⟩]⟩
    client.NoSlotFails call hanging ∧
      (client.perform call hanging).Shows true .returned [requestOf client call "\x7b\x7d"]
        [.event (.list []), .failure .cancelled] ∧
      SameButToken (client.perform call failing).progress
        ((client.retimed none).perform (call.retimed none .absent) failing).progress := by
  have husable : isUsableBase "http://localhost:8080" = .ok true := rfl
  have htimed : timeoutFault? (.int 5) = none := rfl
  intro client call before hanging failing
  have hsends : client.Sends call "\x7b\x7d" :=
    growingClient_sends .stream husable (by decide) htimed
  have hslots : client.NoSlotFails call hanging := growingClient_noSlotFails _ _ call hanging
  have hinterrupted :
      Interrupted client call hanging "\x7b\x7d" before ⟨⟨true, none, true⟩, none⟩ :=
    ⟨hsends, rfl, rfl, rfl, rfl, rfl, ⟨[], rfl⟩, by simp [before, Action.turn, Action.none],
      by decide⟩
  have hcancelled : CancelledBy call hanging before ⟨⟨true, none, true⟩, none⟩ :=
    ⟨by decide, .inr ⟨_, List.mem_append_right _ List.mem_cons_self, rfl⟩⟩
  have hoctets : octets before = listThenHeader := List.append_nil _
  have hsignalled : call.signalled = true := rfl
  have hnever : failing.NeverHangs :=
    ⟨by decide, by simp [failing, before, Action.turn, Action.none]⟩
  have haccepted : Acceptable (client.deadline? call) call.token := ⟨htimed, by decide⟩
  clear_value client call before hanging failing
  have hopen : ¬ HoldsFinal (octets before) := by
    rw [hoctets]
    exact listThenHeader_open
  obtain ⟨hinterrupt, -⟩ := perform_interrupted client call hanging
  obtain ⟨-, hreport, -⟩ := hinterrupt _ _ _ hinterrupted hslots
  obtain ⟨failure, hfailure, hshows⟩ := hreport hopen fun _ => .inl hcancelled
  obtain ⟨-, huntimed⟩ := perform_interrupted client call failing
  refine ⟨hslots, ?_, (huntimed hnever haccepted none none .absent ⟨rfl, by decide⟩).2.2⟩
  rw [hoctets, feed_listThenHeader, hsignalled] at hshows
  cases hfailure with
  | failed fails => cases fails
  | cancelled => exact hshows
  | deadlineExceeded _ uncancelled => exact absurd hcancelled uncancelled

end ConnectRpc.Call
