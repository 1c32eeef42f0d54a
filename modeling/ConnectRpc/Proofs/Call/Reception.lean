import ConnectRpc.Proofs.Call.Slots
import ConnectRpc.Proofs.Wire.Chunking

/-!
# What an exchange brings

A call that is sent has an outcome that its transport's script decides, as long as no slot fails:
items, in order, and whether the exchange then hangs (`Reception`). `receptionOf` reads that off the
script without running anything. Where a call waits, `awaiting` says what comes of it; for a stream
that is taken as it arrives, `reading` says it of all chunks at once: the items of the octets that
arrive, then the one of how reading ends.

The lemmas named `…_brings` say of each stretch of a call that it brings its reception
(`Brings`), given that no slot's failure ends it (`Undisturbed`); the last of them is
`exchange_brings`. A stretch that is part of another is undisturbed if that one is
(`Undisturbed.of_bind`, `of_bind_ok`), so the hypothesis is passed down from whole calls, and the
account of what was gained is added up on the way back (`Brings.after`).
-/

namespace ConnectRpc.Call

open Wire

variable {σ α β : Type}

/-! ## Stretches that no slot's failure ends -/

/-- No slot's failure ends the stretch. -/
def Undisturbed (r : Run σ α) (p : Progress σ) : Prop :=
  ∀ fault, (r p).1 ≠ .error (.fault (.slot fault))

section

variable {r : Run σ α} {f : α → Run σ β} {p p' : Progress σ} {a : α}

theorem bind_of_ok (h : (r p).1 = .ok a) : (r >>= f) p = f a (r p).2 := by
  rw [bind_apply]
  cases hr : r p with
  | mk result p' =>
    rw [hr] at h
    cases h
    rfl

theorem bind_of_error {stop : Stop} (h : (r p).1 = .error stop) :
    (r >>= f) p = (.error stop, (r p).2) := by
  rw [bind_apply]
  cases hr : r p with
  | mk result p' =>
    rw [hr] at h
    cases h
    rfl

theorem Undisturbed.congr {s : Run σ α} (h : Undisturbed r p) (heq : r p = s p') :
    Undisturbed s p' := by
  unfold Undisturbed
  rwa [← heq]

theorem Undisturbed.of_bind (h : Undisturbed (r >>= f) p) : Undisturbed r p := by
  intro fault hfault
  exact h fault (by rw [bind_of_error hfault])

theorem Undisturbed.of_bind_ok (h : Undisturbed (r >>= f) p) (hr : (r p).1 = .ok a) :
    Undisturbed (f a) (r p).2 := by
  intro fault hfault
  exact h fault (by rw [bind_of_ok hr, hfault])

end

/-! ## Receptions -/

/-- What a stretch brings: items in order, and whether it then hangs. -/
structure Reception where
  items : List StreamItem
  hangs : Bool

/-- The reception with items before it. -/
def Reception.behind (r : Reception) (items : List StreamItem) : Reception :=
  ⟨items ++ r.items, r.hangs⟩

/-- What a point of the script brings where a call waits: that the call goes on, a failure, or
nothing for ever. -/
def awaiting (action : Action) (failed : String → Failure) (next : Reception) : Reception :=
  match action.turn with
  | .goesOn => next
  | .fails reason => ⟨[.failure (failed reason)], false⟩
  | .hangs => ⟨[], true⟩

/-- The result of a stretch. -/
def Reception.result (r : Reception) : Except Stop Unit :=
  if r.hangs then .error .hang else .ok ()

/-- The stretch has the result of the reception and gains its items. If it hangs, `cancels` says
whether it has cancelled the token before. -/
structure Brings (signalled : Bool) (sent : List Request) (reception : Reception) (cancels : Bool)
    (r : Run σ Unit) (p : Progress σ) : Prop where
  result : (r p).1 = reception.result
  gains : ∃ c, Gains signalled reception.items sent c p (r p).2 ∧
    (reception.hangs = true → c = cancels)

section

variable {signalled cancels c : Bool} {items : List StreamItem} {sent requests : List Request}
  {reception : Reception} {p p' : Progress σ}

/-- A stretch that goes on as another one does brings what it gains before and what that one
brings. -/
theorem Brings.after {r s : Run σ Unit} (h : Brings signalled sent reception cancels s p')
    (heq : r p = s p') (hgains : Gains signalled items requests c p p') :
    Brings signalled (requests ++ sent) (reception.behind items) (c || cancels) r p := by
  obtain ⟨c', h', hc'⟩ := h.gains
  constructor
  · rw [heq]
    exact h.result
  · refine ⟨c || c', ?_, fun hhangs => by rw [hc' hhangs]⟩
    rw [heq]
    exact hgains.trans h'

/-- A stretch that goes on. -/
theorem brings_of_ok {r : Run σ Unit} (hok : (r p).1 = .ok ())
    (hgains : Gains signalled items requests c p (r p).2) :
    Brings signalled requests ⟨items, false⟩ cancels r p :=
  ⟨hok, c, hgains, nofun⟩

/-- A stretch that gains something and hangs. -/
theorem brings_hang {r : Run σ Unit} (heq : r p = (.error .hang, p'))
    (hgains : Gains signalled items requests c p p') :
    Brings signalled requests ⟨items, true⟩ c r p := by
  constructor
  · rw [heq]
    rfl
  · refine ⟨c, ?_, fun _ => rfl⟩
    rw [heq]
    exact hgains

end

/-! ## Deliveries -/

section

variable [DecidableEq σ] {react : Behaviour σ} {signalled : Bool} {p : Progress σ}

theorem emit_ok {target : Target} {item : StreamItem} (h : Undisturbed (emit react target item) p) :
    (emit react target item p).1 = .ok () := by
  have hne := h
  rw [emit_apply]
  unfold Undisturbed at hne
  rw [emit_apply] at hne
  dsimp only at hne ⊢
  split
  · rfl
  · next fault heq =>
    simp only [heq] at hne
    exact absurd rfl (hne fault)

theorem report_ok {failure : Failure} (h : Undisturbed (report react failure) p) :
    (report react failure p).1 = .ok () := emit_ok h

theorem receive_ok {message : Value} (h : Undisturbed (receive react signalled message) p) :
    (receive react signalled message p).1 = .ok () := by
  cases signalled with
  | true => exact emit_ok h
  | false => rfl

/-- A delivery that no slot ends gains its items. -/
theorem deliver_gains {items : List StreamItem}
    (h : Undisturbed (deliver react signalled items) p) :
    (deliver react signalled items p).1 = .ok () ∧
      Gains signalled items [] false p (deliver react signalled items p).2 := by
  induction items generalizing p with
  | nil => exact ⟨rfl, .refl p⟩
  | cons item rest ih =>
    cases item with
    | event message =>
      have hfirst := receive_ok h.of_bind
      obtain ⟨hok, hgains⟩ := ih (h.of_bind_ok hfirst)
      simp only [deliver, bind_of_ok hfirst]
      exact ⟨hok, (receive_gains react p signalled message).trans hgains⟩
    | failure failure =>
      have hfirst := report_ok h.of_bind
      obtain ⟨hok, hgains⟩ := ih (h.of_bind_ok hfirst)
      simp only [deliver, bind_of_ok hfirst]
      exact ⟨hok, (report_gains react p signalled failure).trans hgains⟩

theorem report_brings {failure : Failure} (h : Undisturbed (report react failure) p) :
    Brings signalled [] ⟨[.failure failure], false⟩ false (report react failure) p :=
  brings_of_ok (report_ok h) (report_gains react p signalled failure)

theorem receive_brings {message : Value} (h : Undisturbed (receive react signalled message) p) :
    Brings signalled [] ⟨[.event message], false⟩ false (receive react signalled message) p :=
  brings_of_ok (receive_ok h) (receive_gains react p signalled message)

theorem deliver_brings {items : List StreamItem}
    (h : Undisturbed (deliver react signalled items) p) :
    Brings signalled [] ⟨items, false⟩ false (deliver react signalled items) p :=
  brings_of_ok (deliver_gains h).1 (deliver_gains h).2

end

/-! ## Waiting for the transport -/

/-- The point at which a call waits for its answer, as a chunk without octets. -/
def Reply.opening (reply : Reply) : Chunk := ⟨reply.action, none⟩

section

variable [DecidableEq σ] {react : Behaviour σ} {signalled : Bool} {token : Token}
  (chunk : Chunk) {rest : List Chunk} {failed : String → Failure} {next : Reception}
  {f : Option String → Run σ Unit} {p : Progress σ}

/-- A stretch that waits first brings what `awaiting` says if it reports the transport's failure and
brings `next` where the transport does not fail. -/
theorem awaiting_brings (hfails : ∀ reason, f (some reason) = report react (failed reason))
    (hnext : ∀ p', Undisturbed (f none) p' →
      Brings signalled [] next (cancelling rest && token != .absent) (f none) p')
    (h : Undisturbed (act token chunk.action >>= f) p) :
    Brings signalled [] (awaiting chunk.action failed next)
      (cancelling (chunk :: rest) && token != .absent) (act token chunk.action >>= f) p := by
  have hmark : Gains signalled [] [] _ p _ := .mark p (chunk.action.cancels && token != .absent)
  have heq := bind_apply (act token chunk.action) f p
  rw [act_apply] at heq
  unfold awaiting
  cases hturn : chunk.action.turn with
  | goesOn =>
    simp only [hturn] at heq
    rw [cancelling_of_goesOn rest hturn, Bool.and_or_distrib_right]
    exact (hnext _ (h.congr heq)).after heq hmark
  | fails reason =>
    have hne : chunk.action.turn ≠ .goesOn := Action.turn_ne_of_fails hturn
    simp only [hturn, hfails] at heq
    rw [cancelling_of_ne rest hne]
    simpa only [Bool.or_false, Reception.behind, List.nil_append] using
      (report_brings (h.congr heq)).after heq hmark
  | hangs =>
    have hne : chunk.action.turn ≠ .goesOn := Action.turn_ne_of_hangs hturn
    simp only [hturn] at heq
    rw [cancelling_of_ne rest hne]
    exact brings_hang heq hmark

end

/-! ## Chunks -/

/-- What reading chunks brings: the items of the octets that arrive and, if none of them ends the
stream, what the end of reading adds. -/
def reading (parser : StreamParser) (chunks : List Chunk) : Reception :=
  let fed := parser.feed (arrived chunks)
  if fed.2.finished then ⟨fed.1, false⟩
  else
    match lastTurn chunks with
    | .goesOn => ⟨fed.1 ++ fed.2.close.1, false⟩
    | .fails reason => ⟨fed.1 ++ [.failure (.streamInterrupted reason)], false⟩
    | .hangs => ⟨fed.1, true⟩

section

variable {parser : StreamParser}

theorem reading_finished (h : parser.finished = true) (chunks : List Chunk) :
    reading parser chunks = ⟨[], false⟩ := by
  simp only [reading, StreamParser.feed_finished h, h, if_true]

theorem reading_nil (h : parser.decoder.Settled) :
    reading parser [] = ⟨parser.close.1, false⟩ := by
  simp only [reading, arrived, lastTurn, StreamParser.feed_nil h, List.nil_append]
  split
  · next hfinished => rw [StreamParser.close_finished hfinished]
  · rfl

/-- A parser that is not finished waits for the next chunk. -/
theorem reading_cons (hsettled : parser.decoder.Settled) (hopen : parser.finished = false)
    (chunk : Chunk) (rest : List Chunk) :
    reading parser (chunk :: rest) =
      awaiting chunk.action .streamInterrupted
        ((reading (parser.feed (chunk.data.getD [])).2 rest).behind
          (parser.feed (chunk.data.getD [])).1) := by
  unfold awaiting
  cases hturn : chunk.action.turn with
  | goesOn =>
    simp only [reading, arrived_of_goesOn rest hturn, lastTurn_of_goesOn rest hturn,
      StreamParser.feed_append]
    split
    · rfl
    · cases lastTurn rest <;> simp only [Reception.behind, List.append_assoc]
  | fails reason =>
    have hne : chunk.action.turn ≠ .goesOn := Action.turn_ne_of_fails hturn
    simp only [reading, arrived_of_ne rest hne, lastTurn_of_ne rest hne, hturn,
      StreamParser.feed_nil hsettled, hopen, Bool.false_eq_true, if_false, List.nil_append]
  | hangs =>
    have hne : chunk.action.turn ≠ .goesOn := Action.turn_ne_of_hangs hturn
    simp only [reading, arrived_of_ne rest hne, lastTurn_of_ne rest hne, hturn,
      StreamParser.feed_nil hsettled, hopen, Bool.false_eq_true, if_false]

end

section

variable [DecidableEq σ] {client : Client σ} {call : Call} {p : Progress σ}

/-- Reading chunks brings what `reading` says. -/
theorem readChunks_brings {parser : StreamParser} {chunks : List Chunk}
    (hsettled : parser.decoder.Settled) (h : Undisturbed (readChunks client call parser chunks) p) :
    Brings call.signalled [] (reading parser chunks) (cancelling chunks && call.token != .absent)
      (readChunks client call parser chunks) p := by
  induction chunks generalizing parser p with
  | nil =>
    rw [reading_nil hsettled]
    exact deliver_brings h
  | cons chunk rest ih =>
    cases hfinished : parser.finished with
    | true =>
      simp only [readChunks, hfinished, if_true, StreamParser.close_finished hfinished]
      rw [reading_finished hfinished]
      exact brings_of_ok rfl (.refl p)
    | false =>
      simp only [readChunks, hfinished, Bool.false_eq_true, if_false] at h ⊢
      rw [reading_cons hsettled hfinished]
      refine awaiting_brings chunk (fun _ => rfl) (fun p' h' => ?_) h
      cases hdata : chunk.data with
      | none =>
        simp only [hdata] at h' ⊢
        rw [Option.getD_none, StreamParser.feed_nil hsettled]
        exact ih hsettled h'
      | some data =>
        simp only [hdata] at h' ⊢
        obtain ⟨hok, hgains⟩ := deliver_gains h'.of_bind
        have hrest := ih (StreamParser.feed_settled hsettled data) (h'.of_bind_ok hok)
        rw [← Bool.false_or (cancelling rest && _)]
        exact hrest.after (bind_of_ok hok) hgains

end

/-! ## Answers -/

/-- The octets of all chunks, if all arrive. -/
theorem joinChunks_apply (token : Token) (chunks : List Chunk) (p : Progress σ) :
    joinChunks token chunks p =
      (match lastTurn chunks with
        | .goesOn => .ok (some (arrived chunks))
        | .fails _ => .ok none
        | .hangs => .error .hang,
        p.mark (cancelling chunks && token != .absent)) := by
  induction chunks generalizing p with
  | nil =>
    rw [cancelling, Bool.false_and, Progress.mark_false]
    rfl
  | cons chunk rest ih =>
    cases hturn : chunk.action.turn with
    | goesOn =>
      simp only [joinChunks, bind_apply, act_apply, hturn, ih, Progress.mark_mark,
        ← Bool.and_or_distrib_right, arrived_of_goesOn rest hturn, lastTurn_of_goesOn rest hturn,
        cancelling_of_goesOn rest hturn]
      cases lastTurn rest <;> rfl
    | fails reason =>
      have hne : chunk.action.turn ≠ .goesOn := Action.turn_ne_of_fails hturn
      simp only [joinChunks, bind_apply, act_apply, hturn, lastTurn_of_ne rest hne,
        cancelling_of_ne rest hne]
      rfl
    | hangs =>
      have hne : chunk.action.turn ≠ .goesOn := Action.turn_ne_of_hangs hturn
      simp only [joinChunks, bind_apply, act_apply, hturn, lastTurn_of_ne rest hne,
        cancelling_of_ne rest hne]

/-- The item that the answer to a unary request is. -/
def Reply.answer (reply : Reply) : StreamItem :=
  if isSuccess reply.status then
    match Json.readBytes reply.body with
    | .ok message => .event message
    | .error _ => .failure (.undecodableResponse reply.body)
  else .failure (statusFailure false reply.status reply.body)

/-- What a stream brings that is taken whole. -/
def Reply.joined (reply : Reply) : Reception :=
  if isSuccess reply.status then ⟨parseStream reply.body, false⟩
  else ⟨[.failure (statusFailure true reply.status reply.body)], false⟩

/-- What a stream brings that is taken as it arrives. If it is refused, its body only counts if all
of it arrives. -/
def Reply.streamed (reply : Reply) : Reception :=
  if isSuccess reply.status then reading .empty reply.chunks
  else
    match lastTurn reply.chunks with
    | .goesOn => ⟨[.failure (statusFailure true reply.status (arrived reply.chunks))], false⟩
    | .fails _ => ⟨[.failure (statusFailure true reply.status [])], false⟩
    | .hangs => ⟨[], true⟩

/-- What the exchange of a request for the answer brings. -/
def receptionOf (call : Call) (reply : Reply) (request : Request) : Reception :=
  match call.shape, request.via with
  | .stream, .stream => awaiting reply.action .streamNotStarted reply.streamed
  | .stream, .request => awaiting reply.action .streamNotStarted reply.joined
  | _, _ => awaiting reply.action (.requestNotMade request.method) ⟨[reply.answer], false⟩

/-- The reception of a stream that is answered with a success. -/
theorem receptionOf_answered {call : Call} {reply : Reply} {request : Request}
    (hshape : call.shape = .stream) (hturn : reply.action.turn = .goesOn)
    (hstatus : isSuccess reply.status = true) :
    receptionOf call reply request =
      match request.via with
      | .request => ⟨parseStream reply.body, false⟩
      | .stream => reading .empty reply.chunks := by
  unfold receptionOf
  rw [hshape]
  cases request.via with
  | request => simp only [awaiting, hturn, Reply.joined, hstatus, if_true]
  | stream => simp only [awaiting, hturn, Reply.streamed, hstatus, if_true]

/-- The points at which the exchange may wait, as chunks. -/
def pointsOf (call : Call) (reply : Reply) (request : Request) : List Chunk :=
  match call.shape, request.via with
  | .stream, .stream => reply.opening :: reply.chunks
  | _, _ => [reply.opening]

section

variable {signalled cancels : Bool} {reception : Reception} {p : Progress σ}

theorem Brings.sending {request : Request} {r : Run σ Unit}
    (h : Undisturbed (note (.sent request) >>= fun _ => r) p)
    (hr : ∀ p', Undisturbed r p' → Brings signalled [] reception cancels r p') :
    Brings signalled [request] reception cancels (note (.sent request) >>= fun _ => r) p := by
  have heq : (note (.sent request) >>= fun _ => r) p = r _ := bind_of_ok rfl
  have hsent := (hr _ (h.congr heq)).after heq (.sending request p)
  simpa only [Reception.behind, List.nil_append, List.append_nil, Bool.false_or] using hsent

theorem Brings.closing {body : Run σ Unit} (h : Brings signalled [] reception cancels body p) :
    Brings signalled [] reception cancels (closingStream body) p := by
  obtain ⟨c, hgains, hc⟩ := h.gains
  have hclosed := hgains.trans (.closing (body p).2)
  simp only [List.append_nil, Bool.or_false] at hclosed
  exact ⟨h.result, c, hclosed, hc⟩

end

section

variable [DecidableEq σ] {client : Client σ} {call : Call} {reply : Reply} {request : Request}
  {p : Progress σ}

theorem unary_brings (h : Undisturbed (unary client call reply request) p) :
    Brings call.signalled [request]
      (awaiting reply.action (.requestNotMade request.method) ⟨[reply.answer], false⟩)
      (cancelling [reply.opening] && call.token != .absent)
      (unary client call reply request) p := by
  refine .sending h fun p' h' =>
    awaiting_brings reply.opening (fun _ => rfl) (fun q hq => ?_) h'
  simp only [Reply.answer] at hq ⊢
  cases hstatus : isSuccess reply.status with
  | true =>
    simp only [hstatus, if_true] at hq ⊢
    cases hbody : Json.readBytes reply.body with
    | ok message =>
      simp only [hbody] at hq ⊢
      exact receive_brings hq
    | error e =>
      simp only [hbody] at hq ⊢
      exact report_brings hq
  | false =>
    simp only [hstatus, Bool.false_eq_true, if_false] at hq ⊢
    exact report_brings hq

theorem buffered_brings (h : Undisturbed (buffered client call reply request) p) :
    Brings call.signalled [request] (awaiting reply.action .streamNotStarted reply.joined)
      (cancelling [reply.opening] && call.token != .absent)
      (buffered client call reply request) p := by
  refine .sending h fun p' h' =>
    awaiting_brings reply.opening (fun _ => rfl) (fun q hq => ?_) h'
  unfold Reply.joined
  cases hstatus : isSuccess reply.status with
  | true =>
    simp only [hstatus, if_true] at hq ⊢
    exact deliver_brings hq
  | false =>
    simp only [hstatus, Bool.false_eq_true, if_false] at hq ⊢
    exact report_brings hq

/-- The refusal of a stream that is taken as it arrives. -/
theorem refusal_brings {status : Int} {chunks : List Chunk}
    (h : Undisturbed (joinChunks call.token chunks >>= fun body =>
      report client.react (statusFailure true status (body.getD []))) p) :
    Brings call.signalled []
      (match lastTurn chunks with
        | .goesOn => ⟨[.failure (statusFailure true status (arrived chunks))], false⟩
        | .fails _ => ⟨[.failure (statusFailure true status [])], false⟩
        | .hangs => ⟨[], true⟩)
      (cancelling chunks && call.token != .absent)
      (joinChunks call.token chunks >>= fun body =>
        report client.react (statusFailure true status (body.getD []))) p := by
  have hmark : Gains call.signalled [] [] _ p _ :=
    .mark p (cancelling chunks && call.token != .absent)
  have heq := bind_apply (joinChunks call.token chunks)
    (fun body => report client.react (statusFailure true status (body.getD []))) p
  rw [joinChunks_apply] at heq
  cases hlast : lastTurn chunks with
  | goesOn =>
    simp only [hlast] at heq
    simpa only [Bool.or_false, Reception.behind, List.nil_append, Option.getD_some] using
      (report_brings (h.congr heq)).after heq hmark
  | fails reason =>
    simp only [hlast] at heq
    simpa only [Bool.or_false, Reception.behind, List.nil_append, Option.getD_none] using
      (report_brings (h.congr heq)).after heq hmark
  | hangs =>
    simp only [hlast] at heq
    exact brings_hang heq hmark

theorem incremental_brings (h : Undisturbed (incremental client call reply request) p) :
    Brings call.signalled [request] (awaiting reply.action .streamNotStarted reply.streamed)
      (cancelling (reply.opening :: reply.chunks) && call.token != .absent)
      (incremental client call reply request) p := by
  refine .sending h fun p' h' =>
    awaiting_brings reply.opening (fun _ => rfl) (fun q hq => .closing ?_) h'
  unfold Reply.streamed
  cases hstatus : isSuccess reply.status with
  | true =>
    simp only [hstatus, if_true] at hq ⊢
    exact readChunks_brings Decoder.empty_settled hq
  | false =>
    simp only [hstatus, Bool.false_eq_true, if_false] at hq ⊢
    exact refusal_brings hq

/-- **What an exchange brings** is what the script says, as long as no slot fails. -/
theorem exchange_brings (h : Undisturbed (exchange client call reply request) p) :
    Brings call.signalled [request] (receptionOf call reply request)
      (cancelling (pointsOf call reply request) && call.token != .absent)
      (exchange client call reply request) p := by
  cases hshape : call.shape with
  | get =>
    simp only [exchange, receptionOf, pointsOf, hshape] at h ⊢
    exact unary_brings h
  | post =>
    simp only [exchange, receptionOf, pointsOf, hshape] at h ⊢
    exact unary_brings h
  | stream =>
    cases hvia : request.via with
    | request =>
      simp only [exchange, receptionOf, pointsOf, hshape, hvia] at h ⊢
      exact buffered_brings h
    | stream =>
      simp only [exchange, receptionOf, pointsOf, hshape, hvia] at h ⊢
      exact incremental_brings h

end

end ConnectRpc.Call
