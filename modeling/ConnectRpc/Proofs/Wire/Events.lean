import ConnectRpc.Proofs.Wire.Framing

/-!
# Which frames are reported

The rules for a single frame are those of `Frame.Reports`: a compressed frame and one that holds no
JSON text are failures, a final frame is silent if it holds the empty object and a failure if its
object has an `error` member, and any other decoded value is an event, in the order of the frames
(`Reported`).

The parser keeps these rules but for one value. Frames that hold `null` are not reported at all, as
if they were silent, and that is the only departure (`parseStream_reported_iff`): the items of a
body are those that the rules ask for exactly when no frame that is looked at holds `null`, and in
any case they are those of the frames that do not.

The proof compares item by item: the rules determine what a frame reports (`Reports.eq_item?`), and
one that holds `null` is due an event that it does not report, so that a body with such frames has
too few items by their number (`length_of_reported`).
-/

namespace ConnectRpc.Wire

/-! ## The rules -/

/-- What a frame reports by the rules. -/
inductive Frame.Reports (f : Frame) : Option StreamItem → Prop where
  | compressed (hc : f.isCompressed = true) :
      f.Reports (some (.failure (.compressedMessage f.payload)))
  | undecodable {e : Json.ReadError} (hc : f.isCompressed = false)
      (hread : Json.readBytes f.payload = .error e) :
      f.Reports (some (.failure (.undecodableMessage f.payload)))
  /-- The empty object in a final frame only ends the stream. -/
  | silent (hc : f.isCompressed = false) (hf : f.isFinal = true)
      (hread : Json.readBytes f.payload = .ok (.dict [])) : f.Reports none
  | trailer {entries : List (Value × Value)} {error : Value} (hc : f.isCompressed = false)
      (hf : f.isFinal = true) (hread : Json.readBytes f.payload = .ok (.dict entries))
      (herror : (Value.dict entries).get? "error" = some error) :
      f.Reports (some (.failure (.ofTrailer (.dict entries))))
  /-- Any value, but for the two kinds of object above. -/
  | event {v : Value} (hc : f.isCompressed = false) (hread : Json.readBytes f.payload = .ok v)
      (hplain : f.isFinal = true → ∀ entries, v = .dict entries →
        entries ≠ [] ∧ (Value.dict entries).get? "error" = none) :
      f.Reports (some (.event v))

/-- What frames report, one after the other. -/
inductive Reported : List Frame → List StreamItem → Prop where
  | nil : Reported [] []
  | cons {f : Frame} {item : Option StreamItem} {rest : List Frame} {items : List StreamItem}
      (hf : f.Reports item) (hrest : Reported rest items) :
      Reported (f :: rest) (item.toList ++ items)

/-- The frame is looked at, and what it holds is `null`. -/
def Frame.holdsNull (f : Frame) : Bool :=
  !f.isCompressed &&
    match Json.readBytes f.payload with
    | .ok .null => true
    | _ => false

theorem Frame.holdsNull_iff {f : Frame} :
    f.holdsNull = true ↔ f.isCompressed = false ∧ Json.readBytes f.payload = .ok .null := by
  unfold Frame.holdsNull
  rw [Bool.and_eq_true, Bool.not_eq_true']
  apply and_congr_right
  intro _
  split
  · next h => simp only [h]
  · next h => simp only [Bool.false_eq_true, false_iff]; exact h

/-! ## One frame -/

theorem Frame.item?_of_null {f : Frame} (h : f.holdsNull = true) : f.item? = none := by
  obtain ⟨hc, hread⟩ := holdsNull_iff.mp h
  simp only [item?, hc, hread, Bool.false_eq_true, if_false]
  cases f.isFinal with
  | true => rfl
  | false => rfl

theorem messageItem?_of_ne_null {v : Value} (h : v ≠ .null) :
    messageItem? v = some (.event v) := by
  cases v with
  | null => exact absurd rfl h
  | _ => rfl

/-- What the parser makes of a final frame is what the rules ask for, `null` excepted. -/
theorem Frame.Reports.of_trailer {f : Frame} {v : Value} (hc : f.isCompressed = false)
    (hf : f.isFinal = true) (hread : Json.readBytes f.payload = .ok v) (h : v ≠ .null) :
    f.Reports (trailerItem? v) := by
  cases v with
  | null => exact absurd rfl h
  | dict entries =>
    simp only [trailerItem?]
    cases herror : (Value.dict entries).get? "error" with
    | some error => exact .trailer hc hf hread herror
    | none =>
      cases entries with
      | nil => exact .silent hc hf hread
      | cons entry rest =>
        refine .event hc hread fun _ entries hentries => ?_
        injection hentries with hentries
        subst hentries
        exact ⟨List.cons_ne_nil entry rest, herror⟩
  | _ => exact .event hc hread fun _ entries hentries => by cases hentries

theorem Frame.Reports.of_item? {f : Frame} (h : f.holdsNull = false) : f.Reports f.item? := by
  unfold Frame.item?
  cases hc : f.isCompressed with
  | true => exact .compressed hc
  | false =>
    cases hread : Json.readBytes f.payload with
    | error e => exact .undecodable hc hread
    | ok v =>
      have hv : v ≠ .null := by
        rintro rfl
        rw [holdsNull_iff.mpr ⟨hc, hread⟩] at h
        cases h
      cases hf : f.isFinal with
      | true => exact .of_trailer hc hf hread hv
      | false =>
        simp only [messageItem?_of_ne_null hv]
        exact .event hc hread fun hfinal => by rw [hf] at hfinal; cases hfinal

/-- The rules leave no choice: what they ask for is what the parser reports, `null` excepted. -/
theorem Frame.Reports.eq_item? {f : Frame} {item : Option StreamItem} (h : f.Reports item)
    (hn : f.holdsNull = false) : item = f.item? := by
  cases h with
  | compressed hc => simp only [item?, hc, if_true]
  | undecodable hc hread => simp only [item?, hc, hread, Bool.false_eq_true, if_false]
  | silent hc hf hread =>
    simp only [item?, hc, hread, hf, Bool.false_eq_true, if_false, if_true]
    rfl
  | trailer hc hf hread herror =>
    simp only [item?, hc, hread, hf, Bool.false_eq_true, if_false, if_true, trailerItem?, herror,
      Option.isSome_some]
  | event hc hread hplain =>
    next v =>
    have hv : v ≠ .null := by
      rintro rfl
      rw [holdsNull_iff.mpr ⟨hc, hread⟩] at hn
      cases hn
    simp only [item?, hc, hread, Bool.false_eq_true, if_false]
    cases hf : f.isFinal with
    | false => exact (messageItem?_of_ne_null hv).symm
    | true =>
      simp only [if_true]
      cases v with
      | null => exact absurd rfl hv
      | dict entries =>
        obtain ⟨hne, herror⟩ := hplain hf entries rfl
        simp only [trailerItem?, herror, Option.isSome_none, Bool.false_eq_true, if_false,
          List.isEmpty_eq_false_iff.mpr hne]
      | _ => rfl

/-- A frame that holds `null` is due an event. -/
theorem Frame.Reports.of_null {f : Frame} {item : Option StreamItem} (h : f.Reports item)
    (hn : f.holdsNull = true) : item = some (.event .null) := by
  obtain ⟨hcompressed, hnull⟩ := holdsNull_iff.mp hn
  cases h with
  | compressed hc => rw [hc] at hcompressed; cases hcompressed
  | undecodable hc hread => rw [hread] at hnull; cases hnull
  | silent hc hf hread => rw [hread] at hnull; cases hnull
  | trailer hc hf hread herror => rw [hread] at hnull; cases hnull
  | event hc hread hplain => rw [hread] at hnull; cases hnull; rfl

/-! ## Many frames -/

/-- The frames that do not hold `null` are reported by the rules. -/
theorem reported_filterMap_item? (frames : List Frame) :
    Reported (frames.filter fun f => !f.holdsNull) (frames.filterMap Frame.item?) := by
  induction frames with
  | nil => exact .nil
  | cons f rest ih =>
    cases hn : f.holdsNull with
    | true =>
      rw [List.filter_cons_of_neg (by simp [hn]), List.filterMap_cons, Frame.item?_of_null hn]
      exact ih
    | false =>
      have hf := Reported.cons (Frame.Reports.of_item? hn) ih
      rw [List.filter_cons_of_pos (by simp [hn]), List.filterMap_cons]
      cases hitem : f.item? with
      | none => rw [hitem] at hf; exact hf
      | some item => rw [hitem] at hf; exact hf

/-- The parser's items fall short of the rules by the frames that hold `null`. -/
theorem length_of_reported {frames : List Frame} {items : List StreamItem}
    (h : Reported frames items) :
    items.length = (frames.filterMap Frame.item?).length + frames.countP Frame.holdsNull := by
  induction h with
  | nil => rfl
  | cons hf hrest ih =>
    next f item rest items =>
    rw [List.length_append, List.filterMap_cons, List.countP_cons]
    cases hn : f.holdsNull with
    | true =>
      rw [hf.of_null hn, Frame.item?_of_null hn]
      simp only [Option.toList_some, List.length_singleton, if_true]
      omega
    | false =>
      rw [← hf.eq_item? hn]
      cases item with
      | none => simp only [Option.toList_none, List.length_nil, Bool.false_eq_true, if_false]; omega
      | some item =>
        simp only [Option.toList_some, List.length_cons, List.length_nil, Bool.false_eq_true,
          if_false]
        omega

/-- A body of encoded frames, of which at most the last is final, has the items of its frames. -/
theorem parseStream_encodeAll {frames : List Frame} (hfits : ∀ f ∈ frames, f.Fits)
    (hlast : ∀ f ∈ frames.dropLast, f.isFinal = false) :
    parseStream (encodeAll frames) = frames.filterMap Frame.item? := by
  have hempty : parseStream [] = [] := parseStream_truncated (Or.inl (by decide))
  have hframes := parseStream_encodeAll_append hfits []
  rw [List.append_nil, throughFinal_eq_self hlast, hempty, ite_self, List.append_nil] at hframes
  exact hframes

/-- **Which frames are reported.** A body of frames of which at most the last is final has, in their
order, the items that the rules ask for of the frames that do not hold `null`. So it keeps the rules
for all its frames exactly when none that is looked at holds `null`. -/
theorem parseStream_reported_iff {frames : List Frame} (hfits : ∀ f ∈ frames, f.Fits)
    (hlast : ∀ f ∈ frames.dropLast, f.isFinal = false) :
    Reported (frames.filter fun f => !f.holdsNull) (parseStream (encodeAll frames)) ∧
      (Reported frames (parseStream (encodeAll frames)) ↔
        ∀ f ∈ frames, f.isCompressed = false → Json.readBytes f.payload ≠ .ok .null) := by
  rw [parseStream_encodeAll hfits hlast]
  refine ⟨reported_filterMap_item? frames, ?_, ?_⟩
  · intro h f hf hc hread
    have hlength := length_of_reported h
    have hcount := List.countP_pos_iff.mpr ⟨f, hf, Frame.holdsNull_iff.mpr ⟨hc, hread⟩⟩
    omega
  · intro h
    have hkept : (frames.filter fun f => !f.holdsNull) = frames := by
      refine List.filter_eq_self.mpr fun f hf => ?_
      rw [Bool.not_eq_true']
      exact Bool.eq_false_iff.mpr fun hn =>
        h f hf (Frame.holdsNull_iff.mp hn).1 (Frame.holdsNull_iff.mp hn).2
    have hreported := reported_filterMap_item? frames
    rw [hkept] at hreported
    exact hreported

/-! ## A frame that is not reported -/

/-- The octets of the text `null`. -/
def nullText : Bytes := [0x6e, 0x75, 0x6c, 0x6c]

/-- The octets of the text `[]`. -/
def listText : Bytes := [0x5b, 0x5d]

/-- A frame that holds `null` between two that hold a list, the last of them final. -/
def nullBetween : List Frame := [⟨0, listText⟩, ⟨0, nullText⟩, ⟨2, listText⟩]

theorem readBytes_of_tokens {bytes : Bytes} {cs : List Char} {tokens : List Json.Token}
    (hchars : Utf8.decodeChars? bytes = some cs) (htokens : Json.Token.list cs = tokens) :
    Json.readBytes bytes = (Json.Reader.start.run tokens).bind Json.Reader.result? := by
  simp only [Json.readBytes, hchars, Json.read, htokens]

theorem readBytes_nullText : Json.readBytes nullText = .ok .null := by
  have hchars : Utf8.decodeChars? nullText = some ['n', 'u', 'l', 'l'] := by
    simp [nullText, Utf8.decodeChars?, Utf8.front]
  have htokens : Json.Token.list ['n', 'u', 'l', 'l'] = [.null] := by
    simp [Json.Token.list, Json.token, Json.isBlank, Json.word?, Json.words]
  rw [readBytes_of_tokens hchars htokens]
  rfl

theorem readBytes_listText : Json.readBytes listText = .ok (.list []) := by
  have hchars : Utf8.decodeChars? listText = some ['[', ']'] := by
    simp [listText, Utf8.decodeChars?, Utf8.front]
  have htokens : Json.Token.list ['[', ']'] = [.openList, .closeList] := by
    simp [Json.Token.list, Json.token, Json.isBlank]
  rw [readBytes_of_tokens hchars htokens]
  rfl

/-- The frames before and after one that holds `null` are reported by the rules, and it is not. -/
theorem parseStream_reported_null_between :
    (∀ f ∈ nullBetween, f.Fits) ∧ (∀ f ∈ nullBetween.dropLast, f.isFinal = false) ∧
      Reported [⟨0, listText⟩, ⟨2, listText⟩] (parseStream (encodeAll nullBetween)) ∧
      ¬ Reported nullBetween (parseStream (encodeAll nullBetween)) := by
  have hfits : ∀ f ∈ nullBetween, f.Fits := by decide
  have hlast : ∀ f ∈ nullBetween.dropLast, f.isFinal = false := by decide
  obtain ⟨hothers, hiff⟩ := parseStream_reported_iff hfits hlast
  have hfilter : (nullBetween.filter fun f => !f.holdsNull) =
      [⟨0, listText⟩, ⟨2, listText⟩] := by
    simp [nullBetween, Frame.holdsNull, Frame.isCompressed, readBytes_nullText,
      readBytes_listText]
  have hmem : (⟨0, nullText⟩ : Frame) ∈ nullBetween := by decide
  rw [hfilter] at hothers
  exact ⟨hfits, hlast, hothers, fun h => hiff.mp h ⟨0, nullText⟩ hmem rfl readBytes_nullText⟩

/-- A frame that holds `null` is due an event, and its body has no items. -/
theorem null_frame_not_reported :
    parseStream (encodeAll [⟨0, nullText⟩]) = [] ∧
      ¬ Reported [⟨0, nullText⟩] (parseStream (encodeAll [⟨0, nullText⟩])) := by
  have hn : Frame.holdsNull ⟨0, nullText⟩ = true :=
    Frame.holdsNull_iff.mpr ⟨rfl, readBytes_nullText⟩
  have hitems : parseStream (encodeAll [⟨0, nullText⟩]) = [] := by
    rw [parseStream_encodeAll (by decide) (by decide), List.filterMap_cons,
      Frame.item?_of_null hn]
    rfl
  refine ⟨hitems, fun h => ?_⟩
  have hlength := length_of_reported h
  rw [hitems, List.filterMap_cons, Frame.item?_of_null hn, List.countP_cons, if_pos hn] at hlength
  simp at hlength

end ConnectRpc.Wire
