import ConnectRpc.Wire.Stream

/-!
# The frames of a stream body

Octets are the encoded forms of some frames and then a tail in which no frame is complete. This
module proves that they are so in exactly one way (`exists_framing`, `Framing.unique`), and that the
items of a body are read off its frames and its tail:

    parseStream bytes = (throughFinal frames).filterMap Frame.item? ++ …

where `…` is one `incompleteMessage` if no frame is final and the tail holds a header, and nothing
otherwise (`parseStream_framing`).

## How the proof goes

Everything follows from how an encoded frame at the front is read. `drain_encodeAll_append` folds
that along a list of frames, whatever octets stand behind them: the frames before the first final
one pass through, and what follows a final one is not looked at. `parseStream_encodeAll_append` says
the same of items. With a truncated tail behind the frames it is the law of a whole body; with
arbitrary octets behind them it says which octets a body's items depend on.

A length that does not fit a 32-bit word has no header, so frames are quantified over as far as the
encoder accepts them: `Framing.written` speaks of `Frame.encode?`.
-/

namespace ConnectRpc.Wire

open Wire.Frame

/-! ## Frames and their tail -/

/-- The octets of several frames. -/
def encodeAll (frames : List Frame) : Bytes := frames.flatMap Frame.encode

/-- The frames up to and including the first final one; all of them if none is final. -/
def throughFinal : List Frame → List Frame
  | [] => []
  | f :: rest => if f.isFinal then [f] else f :: throughFinal rest

/-- `bytes` are `frames` as the encoder writes them, then a `tail` without a complete frame. -/
structure Framing (bytes : Bytes) (frames : List Frame) (tail : Bytes) : Prop where
  written : ∀ f ∈ frames, Frame.encode? f.flags.toNat f.payload = some f.encode
  joined : bytes = encodeAll frames ++ tail
  truncated : Truncated tail

/-- What the end of a body adds: the failure that a header without all of its payload is. -/
def tailItems (tail : Bytes) : List StreamItem :=
  match announced? tail with
  | some expected => [.failure (.incompleteMessage expected (tail.length - headerSize))]
  | none => []

theorem encodeAll_cons (f : Frame) (frames : List Frame) :
    encodeAll (f :: frames) = f.encode ++ encodeAll frames := rfl

theorem encodeAll_append (frames frames' : List Frame) :
    encodeAll (frames ++ frames') = encodeAll frames ++ encodeAll frames' :=
  List.flatMap_append

/-- Frames of which at most the last is final are all frames through the first final one. -/
theorem throughFinal_eq_self {frames : List Frame}
    (h : ∀ f ∈ frames.dropLast, f.isFinal = false) : throughFinal frames = frames := by
  induction frames with
  | nil => rfl
  | cons f rest ih =>
    cases rest with
    | nil => exact ite_self [f]
    | cons g rest =>
      obtain ⟨hf, hrest⟩ := List.forall_mem_cons.mp h
      rw [throughFinal, if_neg (Bool.eq_false_iff.mp hf), ih hrest]

/-- What follows the first final frame is not among the frames through it. -/
theorem throughFinal_append_final {f : Frame} (hf : f.isFinal = true)
    (before after : List Frame) :
    throughFinal (before ++ f :: after) = throughFinal (before ++ [f]) := by
  induction before with
  | nil => simp only [List.nil_append, throughFinal, hf, if_true]
  | cons g rest ih => simp only [List.cons_append, throughFinal, ih]

theorem throughFinal_prefix_self (frames : List Frame) : throughFinal frames <+: frames := by
  induction frames with
  | nil => exact List.prefix_rfl
  | cons f rest ih =>
    rw [throughFinal]
    split
    · exact ⟨rest, rfl⟩
    · exact (List.prefix_cons_inj f).mpr ih

theorem encodeAll_prefix_of {frames frames' : List Frame} (h : frames <+: frames') :
    encodeAll frames <+: encodeAll frames' := by
  obtain ⟨more, rfl⟩ := h
  exact ⟨encodeAll more, (encodeAll_append frames more).symm⟩

namespace Framing

variable {bytes tail tail' : Bytes} {f : Frame} {frames frames' : List Frame}

theorem fits (h : Framing bytes frames tail) : ∀ f ∈ frames, f.Fits :=
  fun f hf => (encode?_eq_some_iff f).mp (h.written f hf)

theorem nil (h : Truncated tail) : Framing tail [] tail :=
  ⟨fun _ hf => absurd hf List.not_mem_nil, rfl, h⟩

theorem cons (h : Framing bytes frames tail) (hf : f.Fits) :
    Framing (f.encode ++ bytes) (f :: frames) tail where
  written := List.forall_mem_cons.mpr ⟨(encode?_eq_some_iff f).mpr hf, h.written⟩
  joined := by rw [encodeAll_cons, List.append_assoc, ← h.joined]
  truncated := h.truncated

/-- Octets without frames are their own tail, and no frame is split off. -/
theorem split?_of_nil (h : Framing bytes [] tail) : split? bytes = none ∧ bytes = tail := by
  obtain rfl : bytes = tail := h.joined
  exact ⟨split?_eq_none_iff.mpr h.truncated, rfl⟩

/-- The first frame is split off, and the others are the frames of what is left. -/
theorem split?_of_cons (h : Framing bytes (f :: frames) tail) :
    split? bytes = some (f, encodeAll frames ++ tail) ∧
      Framing (encodeAll frames ++ tail) frames tail := by
  obtain ⟨hf, hframes⟩ := List.forall_mem_cons.mp h.written
  refine ⟨?_, hframes, rfl, h.truncated⟩
  rw [h.joined, encodeAll_cons, List.append_assoc]
  exact split?_encode_append f _ ((encode?_eq_some_iff f).mp hf)

/-- Octets are frames and a tail in one way only. -/
theorem unique (h : Framing bytes frames tail) (h' : Framing bytes frames' tail') :
    frames' = frames ∧ tail' = tail := by
  induction frames generalizing bytes frames' with
  | nil =>
    obtain ⟨hnone, rfl⟩ := h.split?_of_nil
    cases frames' with
    | nil => exact ⟨rfl, h'.split?_of_nil.2.symm⟩
    | cons g rest' =>
      rw [h'.split?_of_cons.1] at hnone
      cases hnone
  | cons f rest ih =>
    obtain ⟨hsome, hrest⟩ := h.split?_of_cons
    cases frames' with
    | nil =>
      rw [h'.split?_of_nil.1] at hsome
      cases hsome
    | cons g rest' =>
      obtain ⟨hsome', hrest'⟩ := h'.split?_of_cons
      rw [hsome'] at hsome
      injection hsome with hsome
      injection hsome with hfg hjoined
      rw [hjoined] at hrest'
      obtain ⟨hframes, htail⟩ := ih hrest hrest'
      exact ⟨by rw [hfg, hframes], htail⟩

end Framing

/-- All octets are frames and a tail. -/
theorem exists_framing (bytes : Bytes) : ∃ frames tail, Framing bytes frames tail := by
  induction bytes using split?_rec with
  | truncated bytes h => exact ⟨[], bytes, .nil (split?_eq_none_iff.mp h)⟩
  | frame bytes f rest h ih =>
    obtain ⟨frames, tail, hrest⟩ := ih
    obtain ⟨rfl, hf⟩ := split?_eq_some h
    exact ⟨f :: frames, tail, hrest.cons hf⟩

/-! ## Reading encoded frames, whatever follows them -/

/-- Encoded frames at the front pass through the decoder up to the first final one, behind which
nothing is looked at. -/
theorem drain_encodeAll_append {frames : List Frame} (h : ∀ f ∈ frames, f.Fits) (rest : Bytes) :
    Decoder.drain (encodeAll frames ++ rest) =
      if frames.any Frame.isFinal then (throughFinal frames, ⟨[], true⟩)
      else (frames ++ (Decoder.drain rest).1, (Decoder.drain rest).2) := by
  induction frames with
  | nil => rfl
  | cons f frames ih =>
    obtain ⟨hf, hframes⟩ := List.forall_mem_cons.mp h
    have hsplit := split?_encode_append f (encodeAll frames ++ rest) hf
    rw [encodeAll_cons, List.append_assoc, List.any_cons]
    cases hfinal : f.isFinal with
    | true =>
      rw [Decoder.drain_final hsplit hfinal, Bool.true_or, if_pos rfl, throughFinal, if_pos hfinal]
    | false =>
      rw [Decoder.drain_open hsplit hfinal, ih hframes, Bool.false_or]
      split
      · rw [throughFinal, if_neg (Bool.eq_false_iff.mp hfinal)]
      · rfl

/-- The items of a body are those of the frames that the decoder gives and of its end. -/
theorem parseStream_eq_drain (bytes : Bytes) :
    parseStream bytes = (Decoder.drain bytes).1.filterMap Frame.item? ++
      (Decoder.drain bytes).2.close.1.toList.map Shortfall.item := rfl

/-- The items of encoded frames and of what follows them. -/
theorem parseStream_encodeAll_append {frames : List Frame} (h : ∀ f ∈ frames, f.Fits)
    (rest : Bytes) :
    parseStream (encodeAll frames ++ rest) =
      (throughFinal frames).filterMap Frame.item? ++
        if frames.any Frame.isFinal then [] else parseStream rest := by
  rw [parseStream_eq_drain, drain_encodeAll_append h]
  split
  · rfl
  · next hopen =>
    rw [throughFinal_eq_self, List.filterMap_append, List.append_assoc, ← parseStream_eq_drain]
    intro f hf
    have hmem := List.dropLast_subset frames hf
    exact Bool.eq_false_iff.mpr fun hfinal => hopen (List.any_eq_true.mpr ⟨f, hmem, hfinal⟩)

/-- The items of one encoded frame and of what follows it. -/
theorem parseStream_encode_append {f : Frame} (h : f.Fits) (rest : Bytes) :
    parseStream (f.encode ++ rest) =
      f.item?.toList ++ if f.isFinal then [] else parseStream rest := by
  have hone : ∀ g ∈ [f], g.Fits := fun g hg => List.mem_singleton.mp hg ▸ h
  have := parseStream_encodeAll_append hone rest
  rw [encodeAll_cons, List.append_assoc, List.any_cons, List.any_nil, Bool.or_false] at this
  have hthrough : throughFinal [f] = [f] := throughFinal_eq_self (by nofun)
  rw [hthrough, List.filterMap_cons] at this
  cases hitem : f.item? with
  | none => rw [hitem] at this; exact this
  | some item => rw [hitem] at this; exact this

/-- Octets without a complete frame are a tail. -/
theorem parseStream_truncated {tail : Bytes} (h : Truncated tail) :
    parseStream tail = tailItems tail := by
  rw [parseStream_eq_drain, Decoder.drain_truncated (split?_eq_none_iff.mpr h)]
  cases hlength : announced? tail with
  | none => simp only [Decoder.close, tailItems, hlength]; rfl
  | some expected => simp only [Decoder.close, tailItems, hlength]; rfl

/-! ## Whole bodies -/

/-- **The items of a body.** Octets are encoded frames and a truncated tail in exactly one way. The
items are those of the frames through the first final one; if no frame is final, the tail adds one
failure when it holds a header, with the length that it announces and the length that is there.

So octets behind the first final frame have no influence, and another payload in a frame that is not
final changes the item of that frame at most. -/
theorem parseStream_framing (bytes : Bytes) :
    ∃ frames tail, Framing bytes frames tail ∧
      (∀ frames' tail', Framing bytes frames' tail' → frames' = frames ∧ tail' = tail) ∧
      parseStream bytes = (throughFinal frames).filterMap Frame.item? ++
        (if frames.any Frame.isFinal then [] else tailItems tail) ∧
      (∀ before f after, frames = before ++ f :: after → f.isFinal = true →
        ∀ other : Bytes, parseStream (encodeAll (before ++ [f]) ++ other) = parseStream bytes) ∧
      (∀ before f after, frames = before ++ f :: after → f.isFinal = false →
        ∃ left right : List StreamItem, ∀ payload, Frame.Fits ⟨f.flags, payload⟩ →
          parseStream (encodeAll (before ++ ⟨f.flags, payload⟩ :: after) ++ tail) =
            left ++ (if before.any Frame.isFinal then []
              else (Frame.item? ⟨f.flags, payload⟩).toList) ++ right) := by
  obtain ⟨frames, tail, h⟩ := exists_framing bytes
  have hitems : parseStream bytes = (throughFinal frames).filterMap Frame.item? ++
      (if frames.any Frame.isFinal then [] else tailItems tail) := by
    rw [h.joined, parseStream_encodeAll_append h.fits, parseStream_truncated h.truncated]
  refine ⟨frames, tail, h, fun _ _ h' => h.unique h', hitems, ?_, ?_⟩
  · rintro before f after rfl hfinal other
    have hfits : ∀ g ∈ before ++ [f], g.Fits := fun g hg => h.fits g (by
      rcases List.mem_append.mp hg with hg | hg
      · exact List.mem_append_left _ hg
      · exact List.mem_append_right _ (List.mem_singleton.mp hg ▸ List.mem_cons_self))
    have hany : ∀ frames', (before ++ f :: frames').any Frame.isFinal = true := fun frames' =>
      List.any_eq_true.mpr ⟨f, List.mem_append_right _ List.mem_cons_self, hfinal⟩
    rw [parseStream_encodeAll_append hfits, hitems, throughFinal_append_final hfinal before after,
      hany, hany]
    rfl
  · rintro before f after rfl hopen
    have hbefore : ∀ g ∈ before, g.Fits := fun g hg => h.fits g (List.mem_append_left _ hg)
    refine ⟨(throughFinal before).filterMap Frame.item?,
      if before.any Frame.isFinal then [] else parseStream (encodeAll after ++ tail),
      fun payload hpayload => ?_⟩
    have hsame : Frame.isFinal ⟨f.flags, payload⟩ = false := hopen
    rw [encodeAll_append, encodeAll_cons, List.append_assoc, List.append_assoc,
      parseStream_encodeAll_append hbefore, parseStream_encode_append hpayload, hsame,
      List.append_assoc]
    split
    · rfl
    · rfl

end ConnectRpc.Wire
