import ConnectRpc.Bytes

/-!
# Frames

A stream body is a sequence of frames. A frame is one octet of flags, the length of its payload as a
big-endian 32-bit word, and the payload.

* `Frame.encode`: the octets of a frame; `encode?` refuses flags and lengths that do not fit.
* `Frame.split?`: the frame at the front of some octets, if it is complete, and the octets after it.
* `split?_eq_some`: a frame that was split off stands at the front in its encoded form.
* `split?_encode_append`: an encoded frame is split off again, whatever follows it.
* `split?_eq_none_iff`: no frame is split off exactly when the octets are `Truncated`.
* `split?_rec`: induction along the frames of some octets.
-/

namespace ConnectRpc.Wire

/-- Flags and payload of one message of a stream. -/
structure Frame where
  flags : UInt8
  payload : Bytes
  deriving DecidableEq, Repr

/-- Octets in front of a payload. -/
def headerSize : Nat := 5

namespace Frame

/-- The payload is compressed. -/
def isCompressed (f : Frame) : Bool := f.flags &&& 0x01 != 0

/-- The frame ends the stream. -/
def isFinal (f : Frame) : Bool := f.flags &&& 0x02 != 0

/-- The octets of a frame. -/
def encode (f : Frame) : Bytes := f.flags :: Bytes.bigEndian f.payload.length ++ f.payload

/-- The octets of a frame, if the flags are an octet and the length a 32-bit word. -/
def encode? (flags : Int) (payload : Bytes) : Option Bytes :=
  if 0 ≤ flags ∧ flags ≤ 255 ∧ payload.length < 0x100000000 then
    some (encode ⟨UInt8.ofNat flags.toNat, payload⟩)
  else none

/-- The payload length that a header at the front announces. -/
def announced? : Bytes → Option Nat
  | _ :: a :: b :: c :: d :: _ => some (Bytes.ofBigEndian a b c d)
  | _ => none

/-- The complete frame at the front and the octets after it. -/
def split? : Bytes → Option (Frame × Bytes)
  | flags :: a :: b :: c :: d :: rest =>
    let length := Bytes.ofBigEndian a b c d
    if length ≤ rest.length then some (⟨flags, rest.take length⟩, rest.drop length) else none
  | _ => none

/-- The payload's length is a 32-bit word. -/
def Fits (f : Frame) : Prop := f.payload.length < 0x100000000

instance (f : Frame) : Decidable f.Fits := inferInstanceAs (Decidable (_ < _))

/-- No frame is complete: not even a header, or less than the header announces. -/
def Truncated (bytes : Bytes) : Prop :=
  bytes.length < headerSize ∨
    ∃ length, announced? bytes = some length ∧ bytes.length < headerSize + length

/-! ## Encoding -/

theorem length_encode (f : Frame) : f.encode.length = headerSize + f.payload.length := by
  simp only [encode, List.cons_append, List.length_cons, List.length_append,
    Bytes.length_bigEndian, headerSize]
  omega

/-- The encoder accepts exactly the frames that fit. -/
theorem encode?_eq_some_iff (f : Frame) :
    encode? f.flags.toNat f.payload = some f.encode ↔ f.Fits := by
  have hflags : (f.flags.toNat : Int) ≤ 255 := by
    have := f.flags.toNat_lt
    omega
  have hpos : (0 : Int) ≤ f.flags.toNat := Int.natCast_nonneg _
  simp only [encode?, hpos, hflags, true_and, Int.toNat_natCast, UInt8.ofNat_toNat]
  by_cases h : f.payload.length < 0x100000000
  · simp only [h, if_true, Fits]
  · simp only [h, if_false, Fits, reduceCtorEq]

/-! ## Splitting -/

theorem announced?_eq_none_iff {bytes : Bytes} :
    announced? bytes = none ↔ bytes.length < headerSize := by
  unfold announced?
  split
  · simp only [reduceCtorEq, List.length_cons, headerSize, false_iff]
    omega
  · next hshort =>
    simp only [true_iff, headerSize]
    match bytes with
    | [] | [_] | [_, _] | [_, _, _] | [_, _, _, _] => simp
    | flags :: a :: b :: c :: d :: rest => exact absurd rfl (hshort flags a b c d rest)

/-- What is split off stands at the front, encoded, and its length fits its header. -/
theorem split?_eq_some {bytes rest : Bytes} {f : Frame} (h : split? bytes = some (f, rest)) :
    bytes = f.encode ++ rest ∧ f.Fits := by
  unfold split? at h
  split at h
  · next flags a b c d tail =>
    dsimp only at h
    split at h
    · next hlen =>
      injection h with h
      injection h with hf hr
      subst hf hr
      have htake : (tail.take (Bytes.ofBigEndian a b c d)).length = Bytes.ofBigEndian a b c d :=
        List.length_take_of_le hlen
      refine ⟨?_, ?_⟩
      · simp only [encode, htake, Bytes.bigEndian_ofBigEndian, List.cons_append, List.nil_append,
          List.take_append_drop]
      · simp only [Fits, htake]
        exact Bytes.ofBigEndian_lt a b c d
    · cases h
  · cases h

theorem split?_encode_append (f : Frame) (rest : Bytes) (h : f.Fits) :
    split? (f.encode ++ rest) = some (f, rest) := by
  have hword := Bytes.ofBigEndian_bigEndian f.payload.length
  rw [Nat.mod_eq_of_lt h] at hword
  simp only [encode, Bytes.bigEndian, List.cons_append, List.nil_append, split?, hword,
    List.length_append, Nat.le_add_right, if_true, List.take_left, List.drop_left]

/-- A complete frame stays complete when more follows. -/
theorem split?_append {bytes rest : Bytes} {f : Frame} (h : split? bytes = some (f, rest))
    (more : Bytes) : split? (bytes ++ more) = some (f, rest ++ more) := by
  obtain ⟨rfl, hfits⟩ := split?_eq_some h
  rw [List.append_assoc, split?_encode_append f _ hfits]

theorem split?_eq_none_iff {bytes : Bytes} : split? bytes = none ↔ Truncated bytes := by
  unfold split? Truncated announced?
  split
  · next flags a b c d rest =>
    simp only [List.length_cons, headerSize, Option.some.injEq, exists_eq_left']
    split
    · simp only [reduceCtorEq, false_iff]
      omega
    · simp only [true_iff]
      omega
  · next hshort =>
    have hnone : announced? bytes = none := by
      unfold announced?
      split
      · next flags a b c d rest => exact absurd rfl (hshort flags a b c d rest)
      · rfl
    simp only [true_iff]
    exact Or.inl (announced?_eq_none_iff.mp hnone)

theorem split?_length {bytes rest : Bytes} {f : Frame} (h : split? bytes = some (f, rest)) :
    bytes.length = headerSize + f.payload.length + rest.length := by
  rw [(split?_eq_some h).1, List.length_append, length_encode]

theorem split?_length_lt {bytes rest : Bytes} {f : Frame} (h : split? bytes = some (f, rest)) :
    rest.length < bytes.length := by
  have := split?_length h
  simp only [headerSize] at this
  omega

/-- Induction along the frames of some octets, down to what holds no complete one. -/
@[elab_as_elim]
theorem split?_rec {motive : Bytes → Prop}
    (truncated : ∀ bytes, split? bytes = none → motive bytes)
    (frame : ∀ bytes f rest, split? bytes = some (f, rest) → motive rest → motive bytes)
    (bytes : Bytes) : motive bytes := by
  induction hn : bytes.length using Nat.strongRecOn generalizing bytes with
  | ind n ih =>
    cases h : split? bytes with
    | none => exact truncated bytes h
    | some cut =>
      obtain ⟨f, rest⟩ := cut
      exact frame bytes f rest h (ih rest.length (hn ▸ split?_length_lt h) rest rfl)

end Frame

end ConnectRpc.Wire
