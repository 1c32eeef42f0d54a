import ConnectRpc.Proofs.Wire.Framing

/-!
# Chunks do not matter

A body arrives in chunks that may end anywhere: inside a header, inside a payload, between two
frames, or behind the final one. This module proves that a decoder that is fed the chunks one after
the other gives the frames, and comes to the state, that one chunk with all the octets leads to
(`feedAll_empty_flatten`); a parser gives the items that `parseStream` finds in the whole body.

## How the proof goes

`Decoder.Settled` is what every decoder satisfies that has been fed: a finished one holds nothing,
and one that is not holds no complete frame. Draining leaves a settled decoder (`drain_settled`),
and for a settled one an empty chunk changes nothing (`feed_nil`), which is the end of the induction
over the chunks. Its step is `feed_append`: two chunks, one behind the other, are their
concatenation. That holds of every decoder, settled or not, and comes down to `drain_append`, an
induction along the frames at the front; what is left of the first chunk is in the decoder's buffer
when the second is added to it.
-/

namespace ConnectRpc.Wire

open Wire.Frame

namespace Decoder

/-! ## Settled decoders -/

/-- A finished decoder holds nothing, another one no complete frame. -/
structure Settled (d : Decoder) : Prop where
  cleared : d.finished = true → d.buffer = []
  truncated : d.finished = false → Truncated d.buffer

theorem empty_settled : empty.Settled where
  cleared := nofun
  truncated := fun _ => Or.inl (by decide)

theorem drain_settled (bytes : Bytes) : (drain bytes).2.Settled := by
  induction bytes using split?_rec with
  | truncated bytes h =>
    rw [drain_truncated h]
    exact ⟨nofun, fun _ => split?_eq_none_iff.mp h⟩
  | frame bytes f rest h ih =>
    cases hfinal : f.isFinal with
    | true =>
      rw [drain_final h hfinal]
      exact ⟨fun _ => rfl, nofun⟩
    | false =>
      rw [drain_open h hfinal]
      exact ih

theorem feed_settled {d : Decoder} (h : d.Settled) (chunk : Bytes) : (d.feed chunk).2.Settled := by
  cases hfinished : d.finished with
  | true => rw [feed_finished hfinished]; exact h
  | false => rw [feed_open hfinished]; exact drain_settled _

theorem feed_nil {d : Decoder} (h : d.Settled) : d.feed [] = ([], d) := by
  cases hfinished : d.finished with
  | true => exact feed_finished hfinished []
  | false =>
    rw [feed_open hfinished, List.append_nil,
      drain_truncated (split?_eq_none_iff.mpr (h.truncated hfinished)), ← hfinished]

/-! ## Two chunks and their concatenation -/

/-- Octets that follow are read as one more chunk. -/
theorem drain_append (bytes more : Bytes) :
    drain (bytes ++ more) =
      ((drain bytes).1 ++ ((drain bytes).2.feed more).1, ((drain bytes).2.feed more).2) := by
  induction bytes using split?_rec with
  | truncated bytes h =>
    rw [drain_truncated h, feed_open rfl, List.nil_append]
  | frame bytes f rest h ih =>
    have happend := split?_append h more
    cases hfinal : f.isFinal with
    | true =>
      rw [drain_final h hfinal, drain_final happend hfinal, feed_finished rfl, List.append_nil]
    | false =>
      rw [drain_open h hfinal, drain_open happend hfinal, ih, List.cons_append]

theorem feed_append (d : Decoder) (chunk more : Bytes) :
    d.feed (chunk ++ more) =
      ((d.feed chunk).1 ++ ((d.feed chunk).2.feed more).1, ((d.feed chunk).2.feed more).2) := by
  cases hfinished : d.finished with
  | true => rw [feed_finished hfinished, feed_finished hfinished, feed_finished hfinished]; rfl
  | false => rw [feed_open hfinished, feed_open hfinished, ← List.append_assoc, drain_append]

/-! ## Any number of chunks -/

/-- Feeding chunks is feeding their concatenation. -/
theorem feedAll_eq_feed_flatten {d : Decoder} (h : d.Settled) (chunks : List Bytes) :
    d.feedAll chunks = d.feed chunks.flatten := by
  induction chunks generalizing d with
  | nil => rw [List.flatten_nil, feed_nil h]; rfl
  | cons chunk rest ih =>
    rw [feedAll_cons, ih (feed_settled h chunk), List.flatten_cons, feed_append]

end Decoder

namespace StreamParser

theorem feed_settled {p : StreamParser} (h : p.decoder.Settled) (chunk : Bytes) :
    (p.feed chunk).2.decoder.Settled := Decoder.feed_settled h chunk

theorem feed_nil {p : StreamParser} (h : p.decoder.Settled) : p.feed [] = ([], p) := by
  simp only [feed, Decoder.feed_nil h, List.filterMap_nil]

theorem feed_append (p : StreamParser) (chunk more : Bytes) :
    p.feed (chunk ++ more) =
      ((p.feed chunk).1 ++ ((p.feed chunk).2.feed more).1, ((p.feed chunk).2.feed more).2) := by
  simp only [feed, Decoder.feed_append, List.filterMap_append]

theorem feed_finished {p : StreamParser} (h : p.finished = true) (chunk : Bytes) :
    p.feed chunk = ([], p) := by
  simp only [feed, Decoder.feed_finished h, List.filterMap_nil]

theorem close_finished {p : StreamParser} (h : p.finished = true) : p.close.1 = [] := by
  have hdecoder : p.decoder.finished = true := h
  simp only [close, Decoder.close, hdecoder, if_true, Option.toList_none, List.map_nil]

end StreamParser

/-- The items of chunks and of their end are those of the whole body. -/
theorem StreamParser.feedAll_close_eq (chunks : List Bytes) :
    (StreamParser.empty.feedAll chunks).1 ++ (StreamParser.empty.feedAll chunks).2.close.1 =
      parseStream chunks.flatten := by
  rw [StreamParser.feedAll_eq]
  simp only [StreamParser.empty, Decoder.feedAll_eq_feed_flatten Decoder.empty_settled]
  rfl

/-! ## Octets that may go on -/

/-- One of the complete frames of the octets is final. -/
def HoldsFinal (bytes : Bytes) : Prop :=
  ∃ frames tail, Framing bytes frames tail ∧ ∃ f ∈ frames, f.isFinal = true

theorem ofTrailer_ne_incomplete (trailer : Value) (expected received : Nat) :
    Failure.ofTrailer trailer ≠ .incompleteMessage expected received := by
  intro h
  simp only [Failure.ofTrailer] at h
  split at h
  · cases h
  · cases h
  · cases h

theorem trailerItem?_ne_incomplete (message : Value) (expected received : Nat) :
    trailerItem? message ≠ some (.failure (.incompleteMessage expected received)) := by
  unfold trailerItem?
  split
  · split
    · intro h
      injection h with h
      injection h with h
      exact ofTrailer_ne_incomplete _ expected received h
    · split
      · simp
      · simp
  · simp
  · simp

/-- No frame is reported as incomplete. -/
theorem Frame.item?_ne_incomplete (f : Frame) (expected received : Nat) :
    f.item? ≠ some (.failure (.incompleteMessage expected received)) := by
  unfold Frame.item?
  split
  · simp
  · split
    · simp
    · split
      · exact trailerItem?_ne_incomplete _ expected received
      · unfold messageItem?
        split
        · simp
        · simp

namespace StreamParser

/-- Octets give the items of their frames through the first final one, and finish the parser if one
is final. -/
theorem feed_framing {bytes tail : Bytes} {frames : List Frame} (h : Framing bytes frames tail) :
    (empty.feed bytes).1 = (throughFinal frames).filterMap Frame.item? ∧
      (empty.feed bytes).2.finished = frames.any Frame.isFinal := by
  have hfeed : empty.feed bytes =
      ((Decoder.drain bytes).1.filterMap Frame.item?, ⟨(Decoder.drain bytes).2⟩) := rfl
  rw [hfeed, h.joined, drain_encodeAll_append h.fits,
    Decoder.drain_truncated (split?_eq_none_iff.mpr h.truncated)]
  cases hany : frames.any Frame.isFinal with
  | true => exact ⟨rfl, rfl⟩
  | false =>
    refine ⟨?_, rfl⟩
    rw [throughFinal_eq_self fun f hf => Bool.eq_false_iff.mpr fun hfinal => Bool.false_ne_true
      (hany.symm.trans (List.any_eq_true.mpr ⟨f, List.dropLast_subset frames hf, hfinal⟩))]
    simp only [Bool.false_eq_true, if_false, List.append_nil]

/-- A parser is finished by octets exactly if they hold a complete final frame. -/
theorem feed_finished_iff {bytes : Bytes} :
    (empty.feed bytes).2.finished = true ↔ HoldsFinal bytes := by
  constructor
  · intro hfinished
    obtain ⟨frames, tail, h⟩ := exists_framing bytes
    rw [(feed_framing h).2] at hfinished
    exact ⟨frames, tail, h, List.any_eq_true.mp hfinished⟩
  · rintro ⟨frames, tail, h, hfinal⟩
    rw [(feed_framing h).2]
    exact List.any_eq_true.mpr hfinal

/-- What octets give is what longer octets begin with. -/
theorem feed_prefix_parseStream (bytes more : Bytes) :
    (empty.feed bytes).1 <+: parseStream (bytes ++ more) := by
  simp only [parseStream, feed_append, List.append_assoc]
  exact List.prefix_append _ _

theorem parseStream_of_finished {bytes : Bytes} (h : (empty.feed bytes).2.finished = true) :
    parseStream bytes = (empty.feed bytes).1 := by
  simp only [parseStream, close_finished h, List.append_nil]

/-- What octets give tells nothing of a frame that they do not complete. -/
theorem feed_ne_incomplete (bytes : Bytes) (expected received : Nat) :
    .failure (.incompleteMessage expected received) ∉ (empty.feed bytes).1 := by
  intro hmem
  obtain ⟨f, -, hitem⟩ := List.mem_filterMap.mp hmem
  exact f.item?_ne_incomplete expected received hitem

end StreamParser

/-- **Chunks do not matter.** However a body is cut into chunks, a fresh decoder gives the frames
that it gives for the whole body at once. It then holds as many octets, is finished or not alike,
and has the same to report when it is closed. A parser, fed and closed, gives the items of the
body. -/
theorem feedAll_empty_flatten (chunks : List Bytes) :
    (Decoder.empty.feedAll chunks).1 = (Decoder.empty.feed chunks.flatten).1 ∧
      (Decoder.empty.feedAll chunks).2.pending = (Decoder.empty.feed chunks.flatten).2.pending ∧
      (Decoder.empty.feedAll chunks).2.finished = (Decoder.empty.feed chunks.flatten).2.finished ∧
      (Decoder.empty.feedAll chunks).2.close.1 = (Decoder.empty.feed chunks.flatten).2.close.1 ∧
      (StreamParser.empty.feedAll chunks).1 ++ (StreamParser.empty.feedAll chunks).2.close.1 =
        parseStream chunks.flatten := by
  have hdecoder := Decoder.feedAll_eq_feed_flatten Decoder.empty_settled chunks
  refine ⟨?_, ?_, ?_, ?_, StreamParser.feedAll_close_eq chunks⟩
  · rw [hdecoder]
  · rw [hdecoder]
  · rw [hdecoder]
  · rw [hdecoder]

end ConnectRpc.Wire
