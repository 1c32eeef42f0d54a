import ConnectRpc.Failure
import ConnectRpc.Json.Reader
import ConnectRpc.Wire.Decoder

/-!
# Events of a stream

Each frame of a stream body is an event, a failure, or nothing to report: its payload is JSON, a
final frame that holds an object with an `error` member is the failure that member describes, and a
final frame that holds the empty object only ends the stream. A payload of `null` is reported as
nothing.

* `Failure.ofTrailer`: the failure that a trailer describes.
* `Frame.item?`: what a frame reports.
* `StreamParser`: items from chunks, with `feed`, `feedAll` and `close` as in the decoder below it.
* `parseStream`: the items of a whole body.
-/

namespace ConnectRpc

namespace Wire

/-- An event or a failure, in the order of the frames. -/
inductive StreamItem where
  | event (v : Value)
  | failure (f : Failure)
  deriving Repr

end Wire

/-- The failure that a trailer describes. The error is an object with a code and a message, each
counting only if it is a text; an error of any other form is shown as it is. -/
def Failure.ofTrailer (trailer : Value) : Failure :=
  let metadata :=
    match trailer.get? "metadata" with
    | some (.dict entries) => entries
    | _ => []
  match trailer.get? "error" with
  | some (.dict entries) =>
    let error := Value.dict entries
    .streamError ((error.get? "code").bind Value.asPoints?)
      ((error.get? "message").bind Value.asPoints?) metadata
  | some error => .streamError none (some error.points) metadata
  | none => .streamError none (some Value.null.points) metadata

namespace Wire

/-- What a decoded final frame reports. -/
def trailerItem? (message : Value) : Option StreamItem :=
  match message with
  | .dict entries =>
    if (message.get? "error").isSome then some (.failure (.ofTrailer message))
    else if entries.isEmpty then none
    else some (.event message)
  | .null => none
  | _ => some (.event message)

/-- What a decoded frame that is not final reports. -/
def messageItem? : Value → Option StreamItem
  | .null => none
  | message => some (.event message)

/-- What a frame reports. -/
def Frame.item? (f : Frame) : Option StreamItem :=
  if f.isCompressed then some (.failure (.compressedMessage f.payload))
  else
    match Json.readBytes f.payload with
    | .error _ => some (.failure (.undecodableMessage f.payload))
    | .ok message => if f.isFinal then trailerItem? message else messageItem? message

/-- The failure of a stream that ended inside a frame. -/
def Shortfall.item (s : Shortfall) : StreamItem :=
  .failure (.incompleteMessage s.expected s.received)

/-- Items from the chunks of a stream body. -/
structure StreamParser where
  decoder : Decoder
  deriving DecidableEq, Repr

namespace StreamParser

/-- Nothing has arrived. -/
def empty : StreamParser := ⟨.empty⟩

/-- A final frame has arrived. -/
def finished (p : StreamParser) : Bool := p.decoder.finished

/-- The items that one more chunk completes. -/
def feed (p : StreamParser) (chunk : Bytes) : List StreamItem × StreamParser :=
  let (frames, decoder) := p.decoder.feed chunk
  (frames.filterMap Frame.item?, ⟨decoder⟩)

/-- The items that several chunks complete, fed one after the other. -/
def feedAll (p : StreamParser) : List Bytes → List StreamItem × StreamParser
  | [] => ([], p)
  | chunk :: rest =>
    let (items, p') := p.feed chunk
    let (later, p'') := p'.feedAll rest
    (items ++ later, p'')

/-- The items that the end of the body adds. -/
def close (p : StreamParser) : List StreamItem × StreamParser :=
  let (shortfall, decoder) := p.decoder.close
  (shortfall.toList.map Shortfall.item, ⟨decoder⟩)

theorem feedAll_cons (p : StreamParser) (chunk : Bytes) (rest : List Bytes) :
    p.feedAll (chunk :: rest) =
      ((p.feed chunk).1 ++ ((p.feed chunk).2.feedAll rest).1,
        ((p.feed chunk).2.feedAll rest).2) := rfl

theorem feedAll_finished {p : StreamParser} (h : p.finished = true) (chunks : List Bytes) :
    p.feedAll chunks = ([], p) := by
  have hfeed : ∀ chunk, p.feed chunk = ([], p) := fun chunk => by
    simp only [feed, Decoder.feed_finished h]
    rfl
  induction chunks with
  | nil => rfl
  | cons chunk rest ih => rw [feedAll_cons, hfeed, ih]; rfl

/-- Parsing chunks is decoding them and interpreting the frames. -/
theorem feedAll_eq (p : StreamParser) (chunks : List Bytes) :
    p.feedAll chunks =
      ((p.decoder.feedAll chunks).1.filterMap Frame.item?, ⟨(p.decoder.feedAll chunks).2⟩) := by
  induction chunks generalizing p with
  | nil => rfl
  | cons chunk rest ih =>
    simp only [feedAll, ih, feed, Decoder.feedAll_cons, List.filterMap_append]

end StreamParser

/-- The items of a whole body. -/
def parseStream (body : Bytes) : List StreamItem :=
  let (items, parser) := StreamParser.empty.feed body
  items ++ parser.close.1

end Wire

end ConnectRpc
