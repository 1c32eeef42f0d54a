import ConnectRpc.Proofs.Wire.Chunking

/-!
# What a decoder may have gone through

A decoder is fed and closed, in any order and as often as one likes; it may be fed again after it
was closed. This module proves what holds in every state that it can come to (`history_account`).

The invariant is `Settled`: a finished decoder holds nothing, and one that is not finished holds no
complete frame. Each operation keeps it (`settled_operate`), so every history does
(`settled_after`). Nothing is lost on the way, brought twice or put in another order: what a decoder
held and was fed is what it gives, encoded, and what it then holds (`Account`). Behind a final frame
octets are dropped, and then it only begins with what was given.

Chunks are accounted for at once, since feeding them one after the other is feeding them as one; and
for one chunk the account is the decomposition of the octets into frames and a tail.
-/

namespace ConnectRpc.Wire

open Wire.Frame

namespace Decoder

/-! ## Operations -/

/-- What may be done to a decoder. -/
inductive Operation where
  | feed (chunk : Bytes)
  | close
  deriving DecidableEq, Repr

/-- The decoder after an operation. -/
def operate (d : Decoder) : Operation → Decoder
  | .feed chunk => (d.feed chunk).2
  | .close => d.close.2

/-- The decoder after several operations. -/
def after (d : Decoder) (history : List Operation) : Decoder := history.foldl operate d

/-- Closing drops what is held, and does not begin or end anything. -/
theorem close_state (d : Decoder) : d.close.2 = ⟨[], d.finished⟩ := by
  unfold close
  dsimp only
  split
  · rfl
  · split <;> rfl

/-! ## Finished decoders -/

theorem finished_operate {d : Decoder} (h : d.finished = true) (operation : Operation) :
    (d.operate operation).finished = true := by
  cases operation with
  | feed chunk => rw [operate, feed_finished h]; exact h
  | close => rw [operate, close_state]; exact h

/-- A decoder stays finished. -/
theorem finished_after {d : Decoder} (h : d.finished = true) (later : List Operation) :
    (d.after later).finished = true := by
  induction later generalizing d with
  | nil => exact h
  | cons operation later ih => exact ih (finished_operate h operation)

/-! ## The invariant -/

theorem settled_close (d : Decoder) : d.close.2.Settled := by
  have hnothing : ([] : Bytes).length < headerSize := by decide
  rw [close_state]
  exact ⟨fun _ => rfl, fun _ => .inl hnothing⟩

theorem settled_operate {d : Decoder} (h : d.Settled) (operation : Operation) :
    (d.operate operation).Settled := by
  cases operation with
  | feed chunk => exact feed_settled h chunk
  | close => exact settled_close d

theorem settled_after {d : Decoder} (h : d.Settled) (history : List Operation) :
    (d.after history).Settled := by
  induction history generalizing d with
  | nil => exact h
  | cons operation later ih => exact ih (settled_operate h operation)

/-- What is reported of an incomplete frame falls short of what its header announces. -/
theorem Settled.received_lt {d : Decoder} (h : d.Settled) {s : Shortfall}
    (hclose : d.close.1 = some s) : s.received < s.expected := by
  cases hfinished : d.finished with
  | true => simp [close, hfinished] at hclose
  | false =>
    simp only [close, hfinished, Bool.false_eq_true, if_false] at hclose
    cases hannounced : announced? d.buffer with
    | none => simp [hannounced] at hclose
    | some expected =>
      simp only [hannounced, Option.some.injEq] at hclose
      have hheader : headerSize ≤ d.buffer.length := by
        refine Nat.le_of_not_lt fun hshort => ?_
        rw [announced?_eq_none_iff.mpr hshort] at hannounced
        cases hannounced
      have hlength : d.buffer.length < headerSize + expected := by
        rcases h.truncated hfinished with hshort | ⟨length, hlength, hshort⟩
        · omega
        · obtain rfl := Option.some.inj (hannounced.symm.trans hlength)
          exact hshort
      rw [← hclose]
      dsimp only
      omega

/-- Nothing is reported by closing what has just been closed. -/
theorem close_close (d : Decoder) : d.close.2.close.1 = none := by
  rw [close_state]
  cases d.finished <;> rfl

/-! ## The account of octets -/

/-- The octets `fed` to `d` and the frames that they gave, on the way to `d'`. -/
structure Account (d : Decoder) (fed : Bytes) (frames : List Frame) (d' : Decoder) : Prop where
  /-- What is given can be written. -/
  fits : ∀ f ∈ frames, f.Fits
  /-- What was held and fed is given or still held. -/
  kept : d'.finished = false → encodeAll frames ++ d'.buffer = d.buffer ++ fed
  /-- Behind a final frame the rest is dropped. -/
  given : encodeAll frames <+: d.buffer ++ fed

/-- The complete frames at the front are given through the first final one. -/
theorem drain_account (bytes : Bytes) :
    Account empty bytes (drain bytes).1 (drain bytes).2 := by
  obtain ⟨frames, tail, h⟩ := exists_framing bytes
  have hdrain := drain_encodeAll_append h.fits tail
  rw [← h.joined, drain_truncated (split?_eq_none_iff.mpr h.truncated)] at hdrain
  rw [hdrain]
  split
  · refine ⟨fun f hf => h.fits f ((throughFinal_prefix_self frames).mem hf), nofun, ?_⟩
    rw [h.joined]
    exact (encodeAll_prefix_of (throughFinal_prefix_self frames)).trans (List.prefix_append _ _)
  · rw [List.append_nil]
    exact ⟨h.fits, fun _ => h.joined.symm, tail, h.joined.symm⟩

theorem feed_account (d : Decoder) (chunk : Bytes) :
    Account d chunk (d.feed chunk).1 (d.feed chunk).2 := by
  cases hfinished : d.finished with
  | true =>
    rw [feed_finished hfinished]
    refine ⟨by simp, fun hopen => ?_, List.nil_prefix⟩
    rw [hfinished] at hopen
    cases hopen
  | false =>
    rw [feed_open hfinished]
    obtain ⟨hfits, hkept, hgiven⟩ := drain_account (d.buffer ++ chunk)
    exact ⟨hfits, hkept, hgiven⟩

/-- **What holds of a decoder, whatever it has gone through.** A finished one holds nothing, another
one no complete frame. Once finished it stays so and gives nothing more. What closing reports falls
short of what was announced; closing leaves nothing, so closing again reports nothing. And whatever
chunks it is fed from there, what it gives, encoded, and then holds is what it held and was fed, or
the beginning of that if a final frame was among it. -/
theorem history_account (history : List Operation) :
    let d := empty.after history
    d.Settled ∧
    (d.finished = true → ∀ later, (d.after later).finished = true ∧
      ∀ chunk, ((d.after later).feed chunk).1 = []) ∧
    (∀ s, d.close.1 = some s → s.received < s.expected) ∧
    d.close.2 = ⟨[], d.finished⟩ ∧ d.close.2.close.1 = none ∧
    ∀ chunks, Account d chunks.flatten (d.feedAll chunks).1 (d.feedAll chunks).2 := by
  intro d
  have hsettled : d.Settled := settled_after empty_settled history
  refine ⟨hsettled, fun h later => ?_, fun s => hsettled.received_lt, close_state d, close_close d,
    fun chunks => ?_⟩
  · have hfinished := finished_after h later
    exact ⟨hfinished, fun chunk => by rw [feed_finished hfinished]⟩
  · rw [feedAll_eq_feed_flatten hsettled]
    exact feed_account d chunks.flatten

/-- A decoder that was closed inside a frame reads what follows as a new one. -/
example :
    let d := empty.after [.feed [0, 0, 0, 0, 2, 0x7B], .close, .feed [0, 0]]
    d = ⟨[0, 0], false⟩ ∧ (d.feed [0, 0, 1, 0x31]).1 = [⟨0, [0x31]⟩] := by
  decide +kernel

end Decoder

end ConnectRpc.Wire
