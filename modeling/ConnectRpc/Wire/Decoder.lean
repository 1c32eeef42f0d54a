import ConnectRpc.Wire.Frame

/-!
# Decoding frames from chunks

Octets arrive in chunks that need not end where a frame does. The decoder holds what has arrived
beyond the last complete frame. Once a final frame has been decoded it is finished: it holds nothing
and takes nothing more.

* `Decoder.drain`: the complete frames at the front, up to and including the first final one.
* `Decoder.feed`: one more chunk; `feedAll`: several, one after the other.
* `Decoder.close`: the end of the octets; a header whose payload is missing in part is reported,
  fewer octets than a header are not.
-/

namespace ConnectRpc.Wire

/-- Octets of an incomplete frame, and whether the stream has ended. -/
structure Decoder where
  buffer : Bytes
  finished : Bool
  deriving DecidableEq, Repr

/-- What an incomplete frame at the end of a stream announced and what of it arrived. -/
structure Shortfall where
  expected : Nat
  received : Nat
  deriving DecidableEq, Repr

namespace Decoder

/-- Nothing has arrived. -/
def empty : Decoder := ⟨[], false⟩

/-- Octets held back. -/
def pending (d : Decoder) : Nat := d.buffer.length

/-- The complete frames at the front, up to and including the first final one, and what is then
held. -/
def drain (bytes : Bytes) : List Frame × Decoder :=
  match _h : Frame.split? bytes with
  | none => ([], ⟨bytes, false⟩)
  | some (frame, rest) =>
    if frame.isFinal then ([frame], ⟨[], true⟩)
    else (frame :: (drain rest).1, (drain rest).2)
  termination_by bytes.length
  decreasing_by all_goals exact Frame.split?_length_lt _h

/-- The frames that one more chunk completes. -/
def feed (d : Decoder) (chunk : Bytes) : List Frame × Decoder :=
  if d.finished then ([], d) else drain (d.buffer ++ chunk)

/-- The frames that several chunks complete, fed one after the other. -/
def feedAll (d : Decoder) : List Bytes → List Frame × Decoder
  | [] => ([], d)
  | chunk :: rest =>
    let (frames, d') := d.feed chunk
    let (later, d'') := d'.feedAll rest
    (frames ++ later, d'')

/-- The end of the octets: what is held is dropped, and reported if it has a header. -/
def close (d : Decoder) : Option Shortfall × Decoder :=
  let cleared := { d with buffer := [] }
  if d.finished then (none, cleared)
  else
    match Frame.announced? d.buffer with
    | some expected => (some ⟨expected, d.buffer.length - headerSize⟩, cleared)
    | none => (none, cleared)

/-! ## One frame at a time -/

theorem drain_truncated {bytes : Bytes} (h : Frame.split? bytes = none) :
    drain bytes = ([], ⟨bytes, false⟩) := by
  rw [drain]
  split
  · rfl
  · next heq => rw [h] at heq; cases heq

theorem drain_final {bytes rest : Bytes} {f : Frame} (h : Frame.split? bytes = some (f, rest))
    (hf : f.isFinal = true) : drain bytes = ([f], ⟨[], true⟩) := by
  rw [drain]
  split
  · next heq => rw [h] at heq; cases heq
  · next heq =>
    rw [h] at heq
    cases heq
    rw [if_pos hf]

theorem drain_open {bytes rest : Bytes} {f : Frame} (h : Frame.split? bytes = some (f, rest))
    (hf : f.isFinal = false) : drain bytes = (f :: (drain rest).1, (drain rest).2) := by
  rw [drain]
  split
  · next heq => rw [h] at heq; cases heq
  · next heq =>
    rw [h] at heq
    cases heq
    rw [if_neg (Bool.eq_false_iff.mp hf)]

theorem feed_finished {d : Decoder} (h : d.finished = true) (chunk : Bytes) :
    d.feed chunk = ([], d) := if_pos h

theorem feed_open {d : Decoder} (h : d.finished = false) (chunk : Bytes) :
    d.feed chunk = drain (d.buffer ++ chunk) := if_neg (Bool.eq_false_iff.mp h)

theorem feedAll_cons (d : Decoder) (chunk : Bytes) (rest : List Bytes) :
    d.feedAll (chunk :: rest) =
      ((d.feed chunk).1 ++ ((d.feed chunk).2.feedAll rest).1,
        ((d.feed chunk).2.feedAll rest).2) := rfl

end Decoder

end ConnectRpc.Wire
