import ConnectRpc.Proofs.Call.Requests
import ConnectRpc.Proofs.Json.Conformance

/-!
# Which requests carry JSON

A call with a usable base URL and a token that is not cancelled comes to one of three things, and
which one is up to its message. A message that has no JSON text is reported, and nothing is sent.
One that has half a character in it has a JSON text but no octets, and an exception escapes: nothing
is sent either, but nothing is reported. Any other message is written, and a request carries its
text, unless an exception escapes for another cause.

That text is JSON exactly if the numbers in the message are finite (`sent_documents`): a number that
is no real is not refused but written as a word that the grammar does not have (`nan_is_sent`).
-/

namespace ConnectRpc.Call

variable {σ : Type} [DecidableEq σ]

/-- **What is sent is JSON, but for numbers that are no reals.** -/
theorem sent_documents (client : Client σ) (call : Call) (reply : Reply)
    (husable : isUsableBase client.config.baseUrl = .ok true) (htoken : call.token ≠ .cancelled) :
    let outcome := client.perform call reply
    (∃ reason, Json.write call.data = .error (.refused reason) ∧ outcome.progress.sent = [] ∧
      outcome.progress.Tells call.signalled [.failure (.unencodableRequest reason)]) ∨
    ((∀ reason, Json.write call.data ≠ .error (.refused reason)) ∧
      (∃ v, call.data.Contains v ∧ Json.IsHalvedHere v) ∧
      outcome.Shows call.signalled (.raised .halfCharacter) [] []) ∨
    ∃ text, Json.write call.data = .ok text ∧
      (∀ v, call.data.Contains v → ¬ Json.IsHalvedHere v) ∧
      ((∃ fault, client.Faults call fault ∧ outcome.Shows call.signalled (.raised fault) [] []) ∨
        ∃ request, outcome.progress.sent = [request] ∧
          request.Carries (methodUrl client.config.baseUrl call.service call.method) call.shape
            (Utf8.encode text)) ∧
      (Json.IsDocument text ↔ ∀ x, call.data.Contains (.float x) → x.isFinite = true) := by
  intro outcome
  cases hwrite : Json.write call.data with
  | error e =>
    cases e with
    | refused reason =>
      have hrefuses : client.Refuses call (.unencodableRequest reason) :=
        .unencodableRequest husable hwrite
      obtain ⟨hsent, htells⟩ := hrefuses.tells reply
      exact .inl ⟨reason, rfl, hsent, htells⟩
    | halved =>
      have hfaults : client.Faults call .halfCharacter := .halfCharacter husable hwrite
      obtain ⟨-, hhalved⟩ := Json.write_halved_iff.mp hwrite
      exact .inr (.inl ⟨by simp, hhalved, hfaults.shows reply⟩)
  | ok text =>
    refine .inr (.inr ⟨text, rfl, ?_, ?_, Json.isDocument_iff hwrite⟩)
    · exact fun v hv => Json.not_isHalvedHere_of_write_ok hwrite hv
    · rcases opening client call with ⟨fault, h⟩ | ⟨failure, h⟩ | ⟨text', h⟩
      · exact .inl ⟨fault, h, h.shows reply⟩
      · cases h with
        | invalidBaseUrl unusable => rw [husable] at unusable; cases unusable
        | unencodableRequest _ unwritten => rw [hwrite] at unwritten; cases unwritten
        | cancelledUnsent _ _ _ cancelled => exact absurd cancelled htoken
      · obtain rfl : text = text' := Except.ok.inj (hwrite.symm.trans h.written)
        exact .inr ⟨_, h.sent reply, carries_requestOf client call text h.taken⟩

/-- The lower half of a pair alone: nothing is reported. -/
example : ((growingClient "http://localhost:8080" none).perform
    { emptyCall .post with data := .dict [(.text "x", .ofPoints [.ofNat 0xDC00])] }
    ⟨.none, 200, [], []⟩).ending = .raised .halfCharacter := by decide +kernel

/-- A message with two numbers of the format, of which one is written with an exponent. -/
def measuredData : Value :=
  .dict [(.text "scale", .float (.ofDecimal false 5 (-1))),
    (.text "limit", .float (.ofDecimal true 1 22))]

theorem isFinite_of_contains_measuredData {x : Number.Binary64}
    (h : measuredData.Contains (.float x)) : x.isFinite = true := by
  rcases Value.contains_iff.mp h with hself | ⟨u, hheld, hu⟩
  · cases hself
  · have hmembers : u = .float (.ofDecimal false 5 (-1)) ∨ u = .float (.ofDecimal true 1 22) := by
      simpa [Value.held, measuredData] using hheld
    rcases Value.contains_iff.mp hu with hself | ⟨w, hheld', -⟩
    · rcases hmembers with rfl | rfl
      · cases hself
        decide +kernel
      · cases hself
        decide +kernel
    · rcases hmembers with rfl | rfl
      · cases hheld'
      · cases hheld'

/-- The message goes out as JSON. -/
theorem sent_documents_measured :
    let client := growingClient "http://localhost:8080" none
    let call : Call := { emptyCall .stream with data := measuredData }
    let text := "\x7b\"scale\":0.5,\"limit\":-1e+22\x7d"
    isUsableBase client.config.baseUrl = .ok true ∧ call.token ≠ .cancelled ∧
      ∀ reply, ∃ request, (client.perform call reply).progress.sent = [request] ∧
        request.Carries (methodUrl client.config.baseUrl call.service call.method) .stream
          (Utf8.encode text) ∧
        Json.IsDocument text := by
  intro client call text
  have husable : isUsableBase client.config.baseUrl = .ok true := by decide +kernel
  have htoken : call.token ≠ .cancelled := by decide
  have hwrite : Json.write call.data = .ok text := by decide +kernel
  have hsends : client.Sends call text :=
    { usable := husable
      written := hwrite
      taken := fun _ => by decide +kernel
      uncancelled := htoken
      timed := rfl }
  refine ⟨husable, htoken, fun reply => ?_⟩
  rcases sent_documents client call reply husable htoken with
    ⟨reason, herror, -⟩ | ⟨-, ⟨v, hv, hhere⟩, -⟩ | ⟨text', htext, -, hsent, hdocument⟩
  · rw [hwrite] at herror
    cases herror
  · exact absurd hhere (Json.not_isHalvedHere_of_write_ok hwrite hv)
  · obtain rfl : text = text' := Except.ok.inj (hwrite.symm.trans htext)
    have hjson : Json.IsDocument text :=
      hdocument.mpr fun x hx => isFinite_of_contains_measuredData hx
    rcases hsent with ⟨fault, hfaults, -⟩ | ⟨request, hrequest, hcarries⟩
    · exact absurd hfaults hsends.not_faults
    · exact ⟨request, hrequest, hcarries, hjson⟩

/-- A message with a NaN is sent in each of the shapes, as a text that is not JSON. -/
theorem nan_is_sent :
    let client := growingClient "http://localhost:8080" none
    let call : Call := { emptyCall .post with data := .dict [(.text "x", .float .nan)] }
    let text := "\x7b\"x\":NaN\x7d"
    ∀ shape reply, ∃ request,
      (client.perform { call with shape } reply).progress.sent = [request] ∧
      request.Carries (methodUrl client.config.baseUrl call.service call.method) shape
        (Utf8.encode text) ∧
      ¬ Json.IsDocument text := by
  intro client call text shape reply
  have hwrite : Json.write call.data = .ok text := by decide +kernel
  have htoken : call.token ≠ .cancelled := by decide
  have htaken : shape.Takes text := fun _ => by decide +kernel
  have hsends : client.Sends { call with shape } text :=
    { usable := by decide +kernel
      written := hwrite
      taken := htaken
      uncancelled := htoken
      timed := rfl }
  refine ⟨_, hsends.sent reply, carries_requestOf client { call with shape } text htaken,
    fun hdocument => ?_⟩
  have hnan : call.data.Contains (.float .nan) := .held List.mem_cons_self (.self _)
  exact absurd ((Json.isDocument_iff hsends.written).mp hdocument _ hnan) (by decide)

end ConnectRpc.Call
