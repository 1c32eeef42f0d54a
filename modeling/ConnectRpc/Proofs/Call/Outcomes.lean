import ConnectRpc.Proofs.Call.Reception

/-!
# Outcomes of calls

A call goes one of three ways (`opening`). An exception escapes before anything is sent
(`Client.Faults`); it is refused with a failure, and nothing is sent (`Client.Refuses`); or it is
sent (`Client.Sends`). What it then comes to is, as long as no slot fails, a matter of the
transport's script: `Faults.shows`, `Refuses.shows` and `Sends.shows` give for each of the three how
the call ends, what it has sent, and the one list of items that its records tell.

Where the exchange of a call that was sent hangs, the call is given up: because its token has been
cancelled, or else because its deadline passes (`Client.conclusion?`). Without either it never ends.
-/

namespace ConnectRpc.Call

open Wire

variable {σ : Type}

/-! ## How a call opens -/

/-- The deadline of a call: its own, or else the client's. -/
def Client.deadline? (client : Client σ) (call : Call) : Option Value :=
  call.timeout <|> client.config.timeout

/-- The call has a base URL that can be used and a message that can be written and that its shape
takes, and its token is not cancelled. -/
structure Client.Ready (client : Client σ) (call : Call) (text : String) : Prop where
  usable : isUsableBase client.config.baseUrl = .ok true
  written : Json.write call.data = .ok text
  taken : call.shape.Takes text
  uncancelled : call.token ≠ .cancelled

/-- The call is sent with the message `text`. -/
structure Client.Sends (client : Client σ) (call : Call) (text : String) : Prop extends
    client.Ready call text where
  timed : (client.deadline? call).bind timeoutFault? = none

/-- The call is refused with a failure before anything is sent. What is wrong is looked for in the
order of the constructors. -/
inductive Client.Refuses (client : Client σ) (call : Call) : Failure → Prop
  | invalidBaseUrl (unusable : isUsableBase client.config.baseUrl = .ok false) :
      client.Refuses call (.invalidBaseUrl call.shape.attempt client.config.baseUrl)
  | unencodableRequest {reason : Json.EncodeError}
      (usable : isUsableBase client.config.baseUrl = .ok true)
      (unwritten : Json.write call.data = .error (.refused reason)) :
      client.Refuses call (.unencodableRequest reason)
  | cancelledUnsent {text : String} (usable : isUsableBase client.config.baseUrl = .ok true)
      (written : Json.write call.data = .ok text) (taken : call.shape.Takes text)
      (cancelled : call.token = .cancelled) : client.Refuses call .cancelledUnsent

/-- An exception escapes the call before anything is sent. -/
inductive Client.Faults (client : Client σ) (call : Call) : Fault → Prop
  | host {fault : HostFault} (rejected : isUsableBase client.config.baseUrl = .error fault) :
      client.Faults call (.host fault)
  | halfCharacter (usable : isUsableBase client.config.baseUrl = .ok true)
      (halved : Json.write call.data = .error .halved) : client.Faults call .halfCharacter
  | messageLength {text : String} (usable : isUsableBase client.config.baseUrl = .ok true)
      (written : Json.write call.data = .ok text) (tooLong : ¬ call.shape.Takes text) :
      client.Faults call .messageLength
  | timeout {text : String} {fault : Fault} (ready : client.Ready call text)
      (untimed : (client.deadline? call).bind timeoutFault? = some fault) :
      client.Faults call fault

theorem opening (client : Client σ) (call : Call) :
    (∃ fault, client.Faults call fault) ∨ (∃ failure, client.Refuses call failure) ∨
      ∃ text, client.Sends call text := by
  cases hbase : isUsableBase client.config.baseUrl with
  | error fault => exact .inl ⟨_, .host hbase⟩
  | ok usable =>
    cases usable with
    | false => exact .inr (.inl ⟨_, .invalidBaseUrl hbase⟩)
    | true =>
      cases hdata : Json.write call.data with
      | error e =>
        cases e with
        | refused reason => exact .inr (.inl ⟨_, .unencodableRequest hbase hdata⟩)
        | halved => exact .inl ⟨_, .halfCharacter hbase hdata⟩
      | ok text =>
        by_cases htaken : call.shape.Takes text
        · by_cases htoken : call.token = .cancelled
          · exact .inr (.inl ⟨_, .cancelledUnsent hbase hdata htaken htoken⟩)
          · have hready : client.Ready call text := ⟨hbase, hdata, htaken, htoken⟩
            cases htimeout : (client.deadline? call).bind timeoutFault? with
            | some fault => exact .inl ⟨_, .timeout hready htimeout⟩
            | none => exact .inr (.inr ⟨text, hready, htimeout⟩)
        · exact .inl ⟨_, .messageLength hbase hdata htaken⟩

/-- A call that is sent opens with no exception. -/
theorem Client.Sends.not_faults {client : Client σ} {call : Call} {text : String} {fault : Fault}
    (h : client.Sends call text) : ¬ client.Faults call fault := by
  intro hfaults
  cases hfaults with
  | host rejected => rw [h.usable] at rejected; cases rejected
  | halfCharacter _ halved => rw [h.written] at halved; cases halved
  | messageLength _ written tooLong =>
    obtain rfl := Except.ok.inj (h.written.symm.trans written)
    exact tooLong h.taken
  | timeout _ untimed => rw [h.timed] at untimed; cases untimed

/-! ## The run of each opening -/

section

variable [DecidableEq σ] {client : Client σ} {call : Call} {text : String}

theorem Client.Ready.run (h : client.Ready call text) (reply : Reply) :
    client.run call reply =
      supervise client (client.deadline? call) call.token
        (exchange client call reply (requestOf client call text)) := by
  unfold Client.run
  rw [h.usable, h.written]
  exact if_pos h.taken

theorem Client.Faults.run {fault : Fault} (h : client.Faults call fault) (reply : Reply) :
    client.run call reply = throw (.fault fault) := by
  cases h with
  | host rejected =>
    unfold Client.run
    rw [rejected]
  | halfCharacter usable halved =>
    unfold Client.run
    rw [usable, halved]
  | messageLength usable written tooLong =>
    unfold Client.run
    rw [usable, written]
    exact if_neg tooLong
  | timeout ready untimed =>
    simp only [ready.run, supervise, if_neg ready.uncancelled, untimed]

theorem Client.Refuses.run {failure : Failure} (h : client.Refuses call failure) (reply : Reply) :
    client.run call reply = report client.react failure := by
  unfold Client.run
  cases h with
  | invalidBaseUrl unusable => rw [unusable]
  | unencodableRequest usable unwritten => rw [usable, unwritten]
  | cancelledUnsent usable written taken cancelled =>
    rw [usable, written]
    exact (if_pos taken).trans (if_pos cancelled)

/-- What becomes of an exchange that stops early: a slot's failure is passed on. -/
def Client.afterStop (client : Client σ) (timeout : Option Value) : Stop → Run σ Unit
  | .hang => giveUp client timeout
  | stop => throw stop

theorem Client.Sends.run (h : client.Sends call text) (reply : Reply) :
    client.run call reply =
      tryCatch (exchange client call reply (requestOf client call text))
        (client.afterStop (client.deadline? call)) := by
  rw [h.toReady.run, supervise, if_neg h.uncancelled, h.timed]
  rfl

end

/-! ## Giving up -/

/-- What is reported when the exchange of a call never goes on. -/
def Client.conclusion? (client : Client σ) (call : Call) (reply : Reply) (request : Request) :
    Option Failure :=
  if cancelling (pointsOf call reply request) && call.token != .absent then some .cancelled
  else (client.deadline? call).map .deadlineExceeded

/-- The items of an exchange and of its being given up. -/
def Reception.concluded (r : Reception) (conclusion? : Option Failure) : List StreamItem :=
  r.items ++ if r.hangs then conclusion?.toList.map .failure else []

/-- An exchange that hangs never ends if it is not given up. -/
def Reception.ending (r : Reception) (conclusion? : Option Failure) : Ending :=
  if r.hangs && conclusion?.isNone then .pending else .returned

section

variable {α : Type} {r : Run σ α} {handle : Stop → Run σ α} {p : Progress σ}

theorem tryCatch_of_ok {a : α} (h : (r p).1 = .ok a) : tryCatch r handle p = r p := by
  rw [tryCatch_apply]
  cases hr : r p with
  | mk result p' =>
    rw [hr] at h
    cases h
    rfl

theorem tryCatch_of_error {stop : Stop} (h : (r p).1 = .error stop) :
    tryCatch r handle p = handle stop (r p).2 := by
  rw [tryCatch_apply]
  cases hr : r p with
  | mk result p' =>
    rw [hr] at h
    cases h
    rfl

theorem Undisturbed.of_tryCatch (h : Undisturbed (tryCatch r handle) p)
    (hfault : ∀ fault, handle (.fault fault) = throw (.fault fault)) : Undisturbed r p := by
  intro fault heq
  refine h fault ?_
  rw [tryCatch_of_error heq, hfault]
  rfl

end

theorem giveUp_apply [DecidableEq σ] (client : Client σ) (timeout : Option Value)
    (p : Progress σ) :
    giveUp client timeout p =
      match if p.tokenCancelled then some .cancelled else timeout.map .deadlineExceeded with
      | some failure => report client.react failure p
      | none => (.error .hang, p) := by
  simp only [giveUp, bind_apply, get_apply]
  cases p.tokenCancelled with
  | true => simp only [if_true]
  | false =>
    simp only [Bool.false_eq_true, if_false]
    cases timeout with
    | some seconds => rfl
    | none => rfl

/-! ## Outcomes -/

/-- What an outcome shows: how the call ended, what it sent, and the items of its records. -/
structure Outcome.Shows (o : Outcome σ) (signalled : Bool) (ending : Ending)
    (sent : List Request) (items : List StreamItem) : Prop where
  ending : o.ending = ending
  sent : o.progress.sent = sent
  tells : o.progress.Tells signalled items

section

variable [DecidableEq σ] {client : Client σ} {call : Call} {reply : Reply}

/-- The run of a call in which no slot fails is undisturbed. -/
theorem Client.NoSlotFails.undisturbed (h : client.NoSlotFails call reply) :
    Undisturbed (client.run call reply) (.start client.listeners) := by
  intro fault heq
  have hraised : (client.perform call reply).ending = .raised (.slot fault) := by
    rw [perform_ending, heq]
    rfl
  have hfails := (raised_slot_iff client call reply fault).mp hraised
  rw [show _ = none from h] at hfails
  cases hfails

theorem shows_of_gains {result : Except Stop Unit} {items : List StreamItem}
    {requests : List Request} {cancels : Bool} {p : Progress σ}
    (hrun : client.run call reply (.start client.listeners) = (result, p))
    (hgains : Gains call.signalled items requests cancels (.start client.listeners) p) :
    (client.perform call reply).Shows call.signalled (.of result) requests items where
  ending := by rw [perform_ending, hrun]
  sent := by rw [perform_progress, hrun, hgains.sent]; rfl
  tells := by rw [perform_progress, hrun]; exact hgains.tells

/-- An exception that escapes before anything is sent leaves no records. -/
theorem Client.Faults.shows {fault : Fault} (h : client.Faults call fault) (reply : Reply) :
    (client.perform call reply).Shows call.signalled (.raised fault) [] [] :=
  shows_of_gains (congrFun (h.run reply) _) (.refl _)

/-- A call that is refused returns, with the one failure. -/
theorem Client.Refuses.shows {failure : Failure} (h : client.Refuses call failure)
    (hslots : client.NoSlotFails call reply) :
    (client.perform call reply).Shows call.signalled .returned [] [.failure failure] := by
  have hrun := congrFun (h.run reply) (.start client.listeners)
  have hok := report_ok (hslots.undisturbed.congr hrun)
  exact shows_of_gains (hrun.trans (Prod.ext hok rfl))
    (report_gains client.react _ call.signalled failure)

/-- **What a call that is sent comes to**, as long as no slot fails: it sends its one request, and
its records are those of what the script brings and of what ends an exchange that hangs. -/
theorem Client.Sends.shows {text : String} (h : client.Sends call text)
    (hslots : client.NoSlotFails call reply) :
    let request := requestOf client call text
    let reception := receptionOf call reply request
    let conclusion? := client.conclusion? call reply request
    (client.perform call reply).Shows call.signalled (reception.ending conclusion?) [request]
      (reception.concluded conclusion?) := by
  intro request reception conclusion?
  have hrun := congrFun (h.run reply) (.start client.listeners)
  have hundisturbed := hslots.undisturbed.congr hrun
  have hexchange := exchange_brings (hundisturbed.of_tryCatch fun _ => rfl)
  obtain ⟨c, hgains, hc⟩ := hexchange.gains
  have hresult : _ = reception.result := hexchange.result
  unfold Reception.ending Reception.concluded
  unfold Reception.result at hresult
  cases hhangs : reception.hangs with
  | false =>
    rw [hhangs] at hresult
    rw [Bool.false_and, if_neg Bool.false_ne_true, if_neg Bool.false_ne_true, List.append_nil]
    exact shows_of_gains
      (hrun.trans ((tryCatch_of_ok hresult).trans (Prod.ext hresult rfl))) hgains
  | true =>
    rw [hhangs] at hresult
    generalize hq : (exchange client call reply request (.start client.listeners)).2 = q at *
    have htoken : q.tokenCancelled =
        (cancelling (pointsOf call reply request) && call.token != .absent) := by
      rw [hgains.tokenCancelled, hc hhangs]
      rfl
    have hgivenUp : client.run call reply (.start client.listeners) =
        match conclusion? with
        | some failure => report client.react failure q
        | none => (.error .hang, q) := by
      rw [hrun, tryCatch_of_error hresult, hq]
      show giveUp client (client.deadline? call) q = _
      rw [giveUp_apply, htoken]
      rfl
    cases hconclusion : conclusion? with
    | none =>
      rw [hconclusion] at hgivenUp
      rw [if_pos rfl, Option.toList_none, List.map_nil, List.append_nil]
      exact shows_of_gains hgivenUp hgains
    | some failure =>
      rw [hconclusion] at hgivenUp
      have hok := report_ok (hslots.undisturbed.congr hgivenUp)
      exact shows_of_gains (hgivenUp.trans (Prod.ext hok rfl))
        (hgains.trans (report_gains client.react q call.signalled failure))

end

/-! ## A client whose slots do not fail -/

/-- Every slot that is called connects another to the same signal. -/
def growingClient (baseUrl : String) (timeout : Option Value) : Client Nat where
  config := ⟨baseUrl, timeout, true⟩
  listeners := ⟨⟨"event", [0]⟩, ⟨"error_occurred", [0, 1]⟩⟩
  streams := true
  react _ call := [(call.target, .connect (call.slot + 2))]

/-- A call with an empty message and neither deadline nor token. -/
def emptyCall (shape : Shape) : Call :=
  ⟨shape, "greet.v1.GreetService", "Greet", .dict [], true, none, .absent⟩

/-- The client sends calls with an empty message, unless something is wrong with its base URL, its
deadline, or their token. -/
theorem growingClient_sends {baseUrl : String} {timeout : Option Value} {token : Token}
    (shape : Shape) (husable : isUsableBase baseUrl = .ok true) (htoken : token ≠ .cancelled)
    (htimed : timeout.bind timeoutFault? = none) :
    (growingClient baseUrl timeout).Sends { emptyCall shape with token } "\x7b\x7d" where
  usable := husable
  written := rfl
  taken _ := by decide
  uncancelled := htoken
  timed := htimed

theorem growingClient_noSlotFails (baseUrl : String) (timeout : Option Value) (call : Call)
    (reply : Reply) : (growingClient baseUrl timeout).NoSlotFails call reply := by
  refine noSlotFails_of_connecting (fun _ call' reaction h => ⟨call'.slot + 2, ?_⟩) call reply
  rw [List.mem_singleton.mp h]

/-! ## A client whose slots fail -/

/-- The first slot that is called connects another to the same signal, and the second fails. -/
def failingClient (baseUrl : String) (timeout : Option Value) : Client Nat :=
  { growingClient baseUrl timeout with
    react := fun before call =>
      if before.isEmpty then [(call.target, .connect (call.slot + 2))]
      else [(call.target, .fail "slot")] }

/-- A stream of two empty lists. -/
def twoLists : Bytes := [0, 0, 0, 0, 2, 91, 93, 0, 0, 0, 0, 2, 91, 93]

end ConnectRpc.Call
