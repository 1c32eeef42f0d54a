import ConnectRpc.Proofs.Call.Outcomes
import Mathlib.Data.List.TakeWhile

/-!
# Exceptions

What goes wrong with a call is reported in its result. As long as no slot fails and the deadline is
a number, four things are not, and escape as exceptions (`Client.Escapes`): a base URL whose host is
malformed, a written message with half a character in it, one that is too long for the frame it goes
in, and a deadline that is a whole number beyond what clocks count to. This module proves that these
are the only ones, and that each of them does escape (`perform_exceptions`); a base URL of another
scheme or without a host is reported, with nothing sent. A call whose base URL has an unclosed
bracket shows that the first exception does occur (`unclosed_bracket_escapes`).

The work is done by the outcomes of the three openings: an exception escapes exactly if the call
opens with it (`raised_iff`), so it is left to look at what an opening checks (`faults_iff`).
-/

namespace ConnectRpc.Call

open Wire Text

variable {σ : Type}

/-! ## Base URLs -/

/-- Scheme and host are those of an HTTP URL. -/
structure UrlParts.Usable (parts : UrlParts) : Prop where
  scheme : parts.scheme = "http" ∨ parts.scheme = "https"
  host : parts.host ≠ ""

/-- The parts of a base URL, or the fault in its host. -/
def Client.base (client : Client σ) : Except HostFault UrlParts :=
  UrlParts.of (withoutSlashes client.config.baseUrl).toList

theorem isUsableBase_error_iff {client : Client σ} {fault : HostFault} :
    isUsableBase client.config.baseUrl = .error fault ↔ client.base = .error fault := by
  unfold isUsableBase Client.base
  cases UrlParts.of (withoutSlashes client.config.baseUrl).toList with
  | error fault' => simp [Except.map]
  | ok parts => simp [Except.map]

theorem isUsableBase_false_of {client : Client σ} {parts : UrlParts} (h : client.base = .ok parts)
    (hparts : ¬ parts.Usable) : isUsableBase client.config.baseUrl = .ok false := by
  have hbase : UrlParts.of (withoutSlashes client.config.baseUrl).toList = .ok parts := h
  simp only [isUsableBase, hbase, Except.map, Except.ok.injEq, Bool.and_eq_false_iff]
  by_cases hhost : parts.host = ""
  · exact .inr (by simp [hhost])
  · refine .inl (Bool.eq_false_iff.mpr fun hscheme => hparts ⟨?_, hhost⟩)
    simpa using hscheme

theorem isUsableBase_true_iff {client : Client σ} :
    isUsableBase client.config.baseUrl = .ok true ↔
      ∃ parts, client.base = .ok parts ∧ parts.Usable := by
  unfold isUsableBase Client.base
  cases UrlParts.of (withoutSlashes client.config.baseUrl).toList with
  | error fault => simp [Except.map]
  | ok parts =>
    simp only [Except.map, Except.ok.injEq, exists_eq_left', Bool.and_eq_true, Bool.or_eq_true,
      beq_iff_eq, bne_iff_ne]
    exact ⟨fun h => ⟨h.1, h.2⟩, fun h => ⟨h.scheme, h.host⟩⟩

theorem url_requestOf (client : Client σ) (call : Call) (text : String) :
    (requestOf client call text).url =
      withoutSlashes client.config.baseUrl ++ "/" ++ call.service ++ "/" ++ call.method ++
        if call.shape = .get then "?encoding=json&message=" ++ percentEncode text else "" := by
  unfold requestOf methodUrl
  cases call.shape with
  | get => simp [String.append_assoc]
  | post => simp
  | stream => simp

/-- A text without its trailing slashes is what stands before the slashes at its end. -/
theorem toList_eq_withoutSlashes_append (url : String) :
    ∃ slashes, url.toList = (withoutSlashes url).toList ++ slashes ∧ (∀ c ∈ slashes, c = '/') ∧
      (withoutSlashes url).toList.getLast? ≠ some '/' := by
  refine ⟨(url.toList.reverse.takeWhile (· == '/')).reverse, ?_, ?_, ?_⟩
  · rw [withoutSlashes, String.toList_ofList, dropTrailing, ← List.reverse_append,
      List.takeWhile_append_dropWhile, List.reverse_reverse]
  · intro c hc
    have := List.mem_takeWhile_imp (List.mem_reverse.mp hc)
    simpa using this
  · rw [withoutSlashes, String.toList_ofList, dropTrailing, List.getLast?_reverse]
    intro hhead
    have := List.head?_dropWhile_not (· == '/') url.toList.reverse
    simp [hhead] at this

/-! ## Causes -/

/-- The exception that escapes from a call, and its cause. -/
inductive Client.Escapes (client : Client σ) (call : Call) : Fault → Prop
  /-- The host of the base URL is malformed. -/
  | host {fault : HostFault} (rejected : client.base = .error fault) :
      client.Escapes call (.host fault)
  /-- Half a character stands in the written message. -/
  | halfCharacter {parts : UrlParts} (base : client.base = .ok parts) (usable : parts.Usable)
      (halved : Json.write call.data = .error .halved) : client.Escapes call .halfCharacter
  /-- No header of a frame announces the length of the written message. -/
  | messageLength {parts : UrlParts} {text : String} (base : client.base = .ok parts)
      (usable : parts.Usable) (written : Json.write call.data = .ok text)
      (streaming : call.shape = .stream) (tooLong : 0x100000000 ≤ (Utf8.encode text).length) :
      client.Escapes call .messageLength
  /-- The call gets as far as counting its deadline, and no clock counts to that. -/
  | timeoutRange {text : String} {seconds : Value} (ready : client.Ready call text)
      (deadline : client.deadline? call = some seconds)
      (tooLarge : timeoutFault? seconds = some .timeoutRange) : client.Escapes call .timeoutRange

theorem not_takes_iff {shape : Shape} {text : String} :
    ¬ shape.Takes text ↔ shape = .stream ∧ 0x100000000 ≤ (Utf8.encode text).length := by
  rw [Shape.Takes, Classical.not_imp, Frame.Fits, Nat.not_lt]

section

variable {client : Client σ} {call : Call} {fault : Fault}

/-- A call whose deadline, if any, is a number opens with the exceptions that have a cause. -/
theorem faults_iff
    (hnumber : ∀ seconds, client.deadline? call = some seconds → seconds.isNumber = true) :
    client.Faults call fault ↔ client.Escapes call fault := by
  constructor
  · intro h
    cases h with
    | host rejected => exact .host (isUsableBase_error_iff.mp rejected)
    | halfCharacter usable halved =>
      obtain ⟨parts, hbase, husable⟩ := isUsableBase_true_iff.mp usable
      exact .halfCharacter hbase husable halved
    | messageLength usable written tooLong =>
      obtain ⟨parts, hbase, husable⟩ := isUsableBase_true_iff.mp usable
      obtain ⟨hstream, hlength⟩ := not_takes_iff.mp tooLong
      exact .messageLength hbase husable written hstream hlength
    | timeout ready untimed =>
      obtain ⟨seconds, hseconds, hfault⟩ := Option.bind_eq_some_iff.mp untimed
      rcases timeoutFault?_eq_some hfault with ⟨hform, -⟩ | ⟨-, rfl⟩
      · rw [hnumber seconds hseconds] at hform
        cases hform
      · exact .timeoutRange ready hseconds hfault
  · intro h
    cases h with
    | host rejected => exact .host (isUsableBase_error_iff.mpr rejected)
    | halfCharacter base usable halved =>
      exact .halfCharacter (isUsableBase_true_iff.mpr ⟨_, base, usable⟩) halved
    | messageLength base usable written streaming tooLong =>
      exact .messageLength (isUsableBase_true_iff.mpr ⟨_, base, usable⟩) written
        (not_takes_iff.mpr ⟨streaming, tooLong⟩)
    | timeoutRange ready deadline tooLarge =>
      exact .timeout ready (Option.bind_eq_some_iff.mpr ⟨_, deadline, tooLarge⟩)

end

/-! ## How calls end -/

/-- The call is sent, its exchange hangs, and nothing gives it up. -/
def Client.Hangs (client : Client σ) (call : Call) (reply : Reply) : Prop :=
  ∃ text, client.Sends call text ∧
    (receptionOf call reply (requestOf client call text)).hangs = true ∧
    client.conclusion? call reply (requestOf client call text) = none

/-- A call returns that neither raises nor hangs. -/
theorem returned_iff {client : Client σ} {call : Call} {reply : Reply} {ending : Ending}
    (hpending : ending = .pending ↔ client.Hangs call reply)
    (hraised : ∀ fault, ending = .raised fault ↔ client.Escapes call fault) :
    ending = .returned ↔
      (∀ fault, ¬ client.Escapes call fault) ∧ ¬ client.Hangs call reply := by
  rw [← hpending]
  simp only [← hraised]
  cases ending <;> simp

section

variable [DecidableEq σ] {client : Client σ} {call : Call} {reply : Reply}

theorem Reception.ending_ne_raised (r : Reception) (conclusion? : Option Failure) (fault : Fault) :
    r.ending conclusion? ≠ .raised fault := by
  unfold Reception.ending
  split
  · simp
  · simp

/-- An exception escapes exactly if the call opens with it. -/
theorem raised_iff (hslots : client.NoSlotFails call reply) (fault : Fault) :
    (client.perform call reply).ending = .raised fault ↔ client.Faults call fault := by
  refine ⟨fun hending => ?_, fun h => (h.shows reply).ending⟩
  rcases opening client call with ⟨fault', h⟩ | ⟨failure, h⟩ | ⟨text, h⟩
  · rw [(h.shows reply).ending] at hending
    cases hending
    exact h
  · rw [(h.shows hslots).ending] at hending
    cases hending
  · rw [(h.shows hslots).ending] at hending
    exact absurd hending (Reception.ending_ne_raised _ _ fault)

theorem pending_iff (hslots : client.NoSlotFails call reply) :
    (client.perform call reply).ending = .pending ↔ client.Hangs call reply := by
  have hsent : ∀ text, client.Sends call text → ((client.perform call reply).ending = .pending ↔
      (receptionOf call reply (requestOf client call text)).hangs = true ∧
        client.conclusion? call reply (requestOf client call text) = none) := by
    intro text h
    rw [(h.shows hslots).ending, Reception.ending]
    simp
  constructor
  · intro hending
    rcases opening client call with ⟨fault, h⟩ | ⟨failure, h⟩ | ⟨text, h⟩
    · rw [(h.shows reply).ending] at hending
      cases hending
    · rw [(h.shows hslots).ending] at hending
      cases hending
    · exact ⟨text, h, (hsent text h).mp hending⟩
  · rintro ⟨text, h, hhangs⟩
    exact (hsent text h).mpr hhangs

/-- Whatever a call sends is the request of its message. -/
theorem mem_sent (hslots : client.NoSlotFails call reply) {request : Request}
    (h : request ∈ (client.perform call reply).progress.sent) :
    ∃ text, client.Sends call text ∧ request = requestOf client call text := by
  rcases opening client call with ⟨fault, h'⟩ | ⟨failure, h'⟩ | ⟨text, h'⟩
  · rw [(h'.shows reply).sent] at h
    cases h
  · rw [(h'.shows hslots).sent] at h
    cases h
  · rw [(h'.shows hslots).sent] at h
    exact ⟨text, h', List.mem_singleton.mp h⟩

/-- **Which exceptions escape.** As long as no slot fails and the deadline, if there is one, is a
number, a call returns unless there is a cause for an exception, or it hangs and nothing gives it
up. The exception that has a cause escapes, and nothing is sent or recorded. A base URL of another
scheme or without a host is the one failure of a call that returns and sends nothing. The one
request of any other call goes to the base URL without its trailing slashes, then the service, then
the method. -/
theorem perform_exceptions (client : Client σ) (call : Call) (reply : Reply)
    (hslots : client.NoSlotFails call reply)
    (hnumber : ∀ seconds, client.deadline? call = some seconds → seconds.isNumber = true) :
    let outcome := client.perform call reply
    (outcome.ending = .returned ↔
      (∀ fault, ¬ client.Escapes call fault) ∧ ¬ client.Hangs call reply) ∧
    (∀ fault, outcome.ending = .raised fault ↔ client.Escapes call fault) ∧
    (∀ fault, outcome.ending = .raised fault →
      outcome.Shows call.signalled (.raised fault) [] []) ∧
    (∀ parts, client.base = .ok parts → ¬ parts.Usable →
      outcome.Shows call.signalled .returned []
        [.failure (.invalidBaseUrl call.shape.attempt client.config.baseUrl)]) ∧
    (∀ request ∈ outcome.progress.sent, ∃ text stem slashes,
      Json.write call.data = .ok text ∧
        client.config.baseUrl.toList = stem.toList ++ slashes ∧ (∀ c ∈ slashes, c = '/') ∧
        stem.toList.getLast? ≠ some '/' ∧
        request.url = stem ++ "/" ++ call.service ++ "/" ++ call.method ++
          if call.shape = .get then "?encoding=json&message=" ++ percentEncode text else "") ∧
    (∀ text, client.Sends call text → outcome.progress.sent = [requestOf client call text]) := by
  intro outcome
  have hraised : ∀ fault, outcome.ending = .raised fault ↔ _ := fun fault =>
    (raised_iff hslots fault).trans (faults_iff hnumber)
  refine ⟨returned_iff (pending_iff hslots) hraised, hraised, fun fault hending => ?_,
    fun parts hbase hparts => ?_, fun request hrequest => ?_, fun text h => (h.shows hslots).sent⟩
  · exact ((raised_iff hslots fault).mp hending).shows reply
  · exact (Client.Refuses.invalidBaseUrl (isUsableBase_false_of hbase hparts)).shows hslots
  · obtain ⟨text, h, rfl⟩ := mem_sent hslots hrequest
    obtain ⟨slashes, hslashes⟩ := toList_eq_withoutSlashes_append client.config.baseUrl
    exact ⟨text, _, slashes, h.written, hslashes.1, hslashes.2.1, hslashes.2.2,
      url_requestOf client call text⟩

end

/-! ## Two base URLs -/

/-- A base URL with slashes at its end, and a transport that never answers: the call is given up at
its deadline, and its request has one slash behind the host. -/
theorem perform_exceptions_trailing_slashes :
    let client := growingClient "http://localhost:8080//" (some (.int 5))
    let call := emptyCall .get
    let reply : Reply := ⟨⟨false, none, true⟩, 200, [], []⟩
    client.NoSlotFails call reply ∧
      (∀ seconds, client.deadline? call = some seconds → seconds.isNumber = true) ∧
      (client.perform call reply).ending = .returned ∧
      (client.perform call reply).progress.sent.map Request.url =
        ["http://localhost:8080/greet.v1.GreetService/Greet?encoding=json&message=%7B%7D"] := by
  have husable : isUsableBase "http://localhost:8080//" = .ok true := rfl
  have htimed : timeoutFault? (.int 5) = none := rfl
  have hurl : (requestOf (growingClient "http://localhost:8080//" (some (.int 5))) (emptyCall .get)
      "\x7b\x7d").url =
        "http://localhost:8080/greet.v1.GreetService/Greet?encoding=json&message=%7B%7D" := rfl
  intro client call reply
  have hslots : client.NoSlotFails call reply := growingClient_noSlotFails _ _ call reply
  have hdeadline : client.deadline? call = some (.int 5) := rfl
  have hnumber : ∀ seconds, client.deadline? call = some seconds → seconds.isNumber = true := by
    intro seconds hseconds
    rw [hdeadline] at hseconds
    cases hseconds
    rfl
  have hsends : client.Sends call "\x7b\x7d" :=
    growingClient_sends .get husable (by decide) htimed
  replace hurl : (requestOf client call "\x7b\x7d").url = _ := hurl
  have hconclusion : ∀ request,
      client.conclusion? call reply request = some (.deadlineExceeded (.int 5)) := fun _ => rfl
  clear_value client call reply
  obtain ⟨hreturned, -, -, -, -, hsent⟩ := perform_exceptions client call reply hslots hnumber
  refine ⟨hslots, hnumber, hreturned.mpr ⟨?_, ?_⟩, ?_⟩
  · exact fun fault hcause => hsends.not_faults ((faults_iff hnumber).mpr hcause)
  · rintro ⟨text, -, -, hnone⟩
    rw [hconclusion] at hnone
    cases hnone
  · rw [hsent _ hsends, List.map_singleton, hurl]

/-- No slot fails and no deadline is set, and yet the fault in the host escapes the call, with
nothing reported. -/
theorem unclosed_bracket_escapes :
    let client := growingClient "http://[::1" none
    let call := emptyCall .get
    let reply : Reply := ⟨.none, 200, [0x7B, 0x7D], []⟩
    client.NoSlotFails call reply ∧ client.deadline? call = none ∧
      (client.perform call reply).ending = .raised (.host .brackets) ∧
      (client.perform call reply).progress.failures = [] := by
  have hrejected : isUsableBase "http://[::1" = .error .brackets := rfl
  intro client call reply
  have hslots : client.NoSlotFails call reply := growingClient_noSlotFails _ _ call reply
  have hdeadline : client.deadline? call = none := rfl
  have hfaults : client.Faults call (.host .brackets) := .host hrejected
  clear_value client call reply
  have hshows := hfaults.shows reply
  exact ⟨hslots, hdeadline, hshows.ending, hshows.tells.failures⟩

end ConnectRpc.Call
