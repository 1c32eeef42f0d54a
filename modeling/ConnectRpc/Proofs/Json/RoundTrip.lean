import ConnectRpc.Json.Reader
import ConnectRpc.Proofs.Json.Writing
import ConnectRpc.Proofs.Number.Digits
import ConnectRpc.Proofs.Text.Utf8

/-!
# Reading what was written

The text of a message value is read as that value (`reads_of_write`). The reader goes over a text
with a stack of open containers, so the statement about a part of a text is about all stacks and all
that may follow: started where a value is due, the reader comes to the end of the part with the
value read (`Reads`).

A text alone does not tell where a whole number ends. Behind a value there is a comma, a closing
bracket or the end of the text (`EndsValue`), and each of them ends one.
-/

namespace ConnectRpc.Json

/-! ## Going along a text -/

/-- The reader after a text. -/
def Reader.along (r : Reader) (cs : List Char) : Except ReadError Reader := r.run (Token.list cs)

theorem Reader.along_cons {r : Reader} {c : Char} {rest rest' : List Char} {t : Token}
    (hblank : isBlank c = false) (htoken : token c rest = (t, rest')) (ht : t ≠ .bad) :
    r.along (c :: rest) = (r.step t).bind fun next => next.along rest' := by
  have hlist : Token.list (c :: rest) = t :: Token.list rest' := by
    rw [Token.list, if_neg (by simp [hblank]), htoken, dif_neg ht]
  rw [Reader.along, hlist, Reader.run_cons]
  rfl

/-- The characters that are tokens of their own. -/
def marks : List (Char × Token) :=
  [('[', .openList), (']', .closeList), ('\x7b', .openDict), ('\x7d', .closeDict), (',', .comma),
    (':', .colon)]

/-- A mark takes the reader one step on. -/
theorem Reader.along_mark {r next : Reader} {c : Char} {t : Token} (h : (c, t) ∈ marks)
    (hstep : r.step t = .ok next) (rest : List Char) : r.along (c :: rest) = next.along rest := by
  have hmark : isBlank c = false ∧ token c rest = (t, rest) ∧ t ≠ .bad := by
    simp only [marks, List.mem_cons, Prod.mk.injEq, List.not_mem_nil, or_false] at h
    rcases h with ⟨rfl, rfl⟩ | ⟨rfl, rfl⟩ | ⟨rfl, rfl⟩ | ⟨rfl, rfl⟩ | ⟨rfl, rfl⟩ | ⟨rfl, rfl⟩ <;>
      exact ⟨rfl, rfl, by decide⟩
  obtain ⟨hblank, htoken, ht⟩ := hmark
  rw [Reader.along_cons hblank htoken ht, hstep]
  rfl

/-- What may stand behind a value. -/
def EndsValue (cs : List Char) : Prop := ∀ c ∈ cs.head?, c = ',' ∨ c = ']' ∨ c = '\x7d'

/-- Where a value is due, the text is read as that value. -/
def Reads (text : List Char) (v : Value) : Prop :=
  ∀ stack mayClose rest, EndsValue rest →
    (Reader.value stack mayClose).along (text ++ rest) = (Reader.after stack v).along rest

/-! ## Words -/

theorem reads_null : Reads "null".toList .null := by
  intro stack mayClose rest _
  have htoken : token 'n' ('u' :: 'l' :: 'l' :: rest) = (.null, rest) := by
    simp [token, word?, words]
  exact Reader.along_cons rfl htoken (by simp)

theorem reads_bool (b : Bool) : Reads (if b then "true" else "false").toList (.bool b) := by
  intro stack mayClose rest _
  cases b with
  | true =>
    have htoken : token 't' ('r' :: 'u' :: 'e' :: rest) = (.bool true, rest) := by
      simp [token, word?, words]
    exact Reader.along_cons rfl htoken (by simp)
  | false =>
    have htoken : token 'f' ('a' :: 'l' :: 's' :: 'e' :: rest) = (.bool false, rest) := by
      simp [token, word?, words]
    exact Reader.along_cons rfl htoken (by simp)

/-! ## Strings -/

theorem stringPoints_of_close {rest : List Char} :
    stringPoints ('"' :: rest) = some ([], rest) := by
  rw [stringPoints]
  rfl

theorem stringPoints_of_point {c : Char} {p : Text.Point} {rest rest' : List Char}
    (h : stringStep c rest = .point p rest') :
    stringPoints (c :: rest) = (stringPoints rest').map fun found => (p :: found.1, found.2) := by
  rw [stringPoints]
  split
  next heq => rw [h] at heq; cases heq
  next heq => rw [h] at heq; cases heq
  next heq => rw [h] at heq; cases heq; rfl

/-- The digits of a control character are those of its escape. -/
theorem hexPadded_control : ∀ n < 0x20, ∃ a b c d, Text.hexPadded 4 n = [a, b, c, d] ∧
    hexFour? [a, b, c, d] = some (n, []) := by
  have h : ∀ n < 0x20, (Text.hexPadded 4 n).length = 4 ∧
      hexFour? (Text.hexPadded 4 n) = some (n, []) := by decide +kernel
  intro n hn
  obtain ⟨hlength, hvalue⟩ := h n hn
  obtain ⟨a, b, c, d, heq⟩ := List.length_eq_four.mp hlength
  exact ⟨a, b, c, d, heq, heq ▸ hvalue⟩

theorem hexFour?_append {a b c d : Char} {n : Nat} (h : hexFour? [a, b, c, d] = some (n, []))
    (rest : List Char) : hexFour? (a :: b :: c :: d :: rest) = some (n, rest) := by
  simp only [hexFour?, Option.bind_eq_bind, Option.bind_eq_some_iff, Option.pure_def,
    Option.some.injEq, Prod.mk.injEq] at h ⊢
  obtain ⟨a', ha, b', hb, c', hc, d', hd, hvalue, -⟩ := h
  exact ⟨a', ha, b', hb, c', hc, d', hd, hvalue, trivial⟩

theorem unicodeStep_control {c : Char} (h : c.toNat < 0x20) (rest : List Char) :
    unicodeStep (Text.hexPadded 4 c.toNat ++ rest) = .point (.char c) rest := by
  obtain ⟨w, x, y, z, hdigits, hvalue⟩ := hexPadded_control c.toNat h
  have hhigh : isHighHalf c.toNat = false := by
    simp only [isHighHalf, Bool.and_eq_false_iff, decide_eq_false_iff_not]
    omega
  have hpoint : Text.Point.ofNat c.toNat = .char c := by
    rw [Text.Point.ofNat, dif_neg (by omega), Char.ofNat_toNat]
  rw [hdigits]
  simp only [List.cons_append, List.nil_append, unicodeStep, hexFour?_append hvalue, hhigh,
    Bool.false_eq_true, if_false, hpoint]

/-- A character is read as it was written. -/
theorem stringStep_stringChar (c : Char) (rest : List Char) :
    ∃ first more, stringChar c = first :: more ∧
      stringStep first (more ++ rest) = .point (.char c) rest := by
  have hwritten := writtenChar_stringChar c
  generalize stringChar c = cs at hwritten
  cases hwritten with
  | plain hprintable hquote hbackslash =>
    refine ⟨c, [], rfl, ?_⟩
    rw [stringStep.eq_def, if_neg hquote, if_neg hbackslash, if_neg (Nat.not_lt.mpr hprintable),
      List.nil_append]
  | @letter e hletter hvalue =>
    have hu : e ≠ 'u' := by
      rintro rfl
      exact absurd hletter (by decide)
    refine ⟨'\\', [e], rfl, ?_⟩
    rw [stringStep.eq_def, if_neg (by decide), if_pos rfl]
    simp only [List.singleton_append, if_neg hu, hvalue]
  | codePoint hcontrol =>
    refine ⟨'\\', _, rfl, ?_⟩
    rw [stringStep.eq_def, if_neg (by decide), if_pos rfl]
    exact unicodeStep_control hcontrol rest

theorem stringPoints_flatMap (cs rest : List Char) :
    stringPoints (cs.flatMap stringChar ++ '"' :: rest) = some (cs.map .char, rest) := by
  induction cs with
  | nil => exact stringPoints_of_close
  | cons c cs ih =>
    obtain ⟨first, more, hchar, hstep⟩ :=
      stringStep_stringChar c (cs.flatMap stringChar ++ '"' :: rest)
    rw [List.flatMap_cons, hchar, List.append_assoc, List.cons_append, stringPoints_of_point hstep,
      ih]
    rfl

/-- A string is one token. -/
theorem along_stringText (r : Reader) (cs rest : List Char) :
    r.along (stringText cs ++ rest) =
      (r.step (.text (cs.map .char))).bind fun next => next.along rest := by
  have htoken : token '"' (cs.flatMap stringChar ++ '"' :: rest) =
      (.text (cs.map .char), rest) := by
    simp [token, stringPoints_flatMap]
  have htext : stringText cs ++ rest = '"' :: (cs.flatMap stringChar ++ '"' :: rest) := by
    simp [stringText]
  rw [htext]
  exact Reader.along_cons rfl htoken (by simp)

theorem reads_text (s : String) : Reads (stringText s.toList) (.text s) := by
  intro stack mayClose rest _
  rw [along_stringText, Reader.step, Reader.beginValue, Value.ofPoints_map_char,
    String.ofList_toList]
  rfl

/-! ## Whole numbers -/

section

variable {rest : List Char} (hrest : EndsValue rest)

include hrest

theorem EndsValue.dropWhile_digits : rest.takeWhile Number.isAsciiDigit = [] ∧
    rest.dropWhile Number.isAsciiDigit = rest := by
  cases rest with
  | nil => exact ⟨rfl, rfl⟩
  | cons c more =>
    have hc : Number.isAsciiDigit c = false := by
      rcases hrest c rfl with rfl | rfl | rfl <;> decide
    exact ⟨by rw [List.takeWhile_cons, hc]; rfl, by rw [List.dropWhile_cons, hc]; rfl⟩

theorem EndsValue.fraction : fraction rest = ([], rest) := by
  cases rest with
  | nil => rfl
  | cons c more =>
    rcases hrest c rfl with rfl | rfl | rfl <;> rfl

theorem EndsValue.exponent? : exponent? rest = none := by
  cases rest with
  | nil => rfl
  | cons c more =>
    rcases hrest c rfl with rfl | rfl | rfl <;> rfl

theorem spanDigits_append {digits : List Char}
    (hdigits : ∀ c ∈ digits, Number.isAsciiDigit c = true) :
    spanDigits (digits ++ rest) = (digits, rest) := by
  obtain ⟨htake, hdrop⟩ := hrest.dropWhile_digits
  rw [spanDigits, List.takeWhile_append_of_pos hdigits, List.dropWhile_append_of_pos hdigits, htake,
    hdrop, List.append_nil]

theorem wholePart_toDigits (n : Nat) :
    wholePart (Nat.toDigits 10 n ++ rest) = (Nat.toDigits 10 n, rest) := by
  unfold wholePart
  split
  next more heq =>
    -- only zero begins so
    cases hdigits : Nat.toDigits 10 n with
    | nil => exact absurd hdigits Nat.toDigits_ne_nil
    | cons d digits =>
      rw [hdigits, List.cons_append, List.cons.injEq] at heq
      obtain ⟨rfl, rfl⟩ := heq
      obtain ⟨rfl, rfl⟩ := Number.toDigits_eq_cons_zero_iff.mp hdigits
      rfl
  next => exact spanDigits_append hrest Number.isAsciiDigit_of_mem_toDigits

/-- The digits of a number are a numeral, up to what ends the value. -/
theorem numeral_toDigits (negative : Bool) (n : Nat) :
    numeral negative (Nat.toDigits 10 n ++ rest) = (.int negative (Nat.toDigits 10 n), rest) := by
  unfold numeral
  rw [wholePart_toDigits hrest]
  dsimp only
  rw [if_neg (by simp [Nat.toDigits_ne_nil]), hrest.fraction]
  dsimp only
  rw [hrest.exponent?]
  rfl

end

/-- Where a digit stands a numeral begins, and behind a minus sign its digits follow. -/
theorem token_of_isAsciiDigit {d : Char} (hd : Number.isAsciiDigit d = true) (rest : List Char) :
    isBlank d = false ∧ token d rest = numeral false (d :: rest) ∧
      token '-' (d :: rest) = numeral true (d :: rest) := by
  have hmem := Number.isAsciiDigit_iff_mem.mp hd
  simp only [List.mem_cons, List.not_mem_nil, or_false] at hmem
  rcases hmem with rfl | rfl | rfl | rfl | rfl | rfl | rfl | rfl | rfl | rfl <;>
    exact ⟨rfl, by simp [token, word?, words], by simp [token, word?, words]⟩

/-- The reader takes the digits of a number that is not too long, with the sign before them. -/
theorem step_int {stack : List Frame} {mayClose negative : Bool} {n : Nat}
    (h : (Nat.toDigits 10 n).length ≤ Number.longestNumeral) :
    (Reader.value stack mayClose).step (.int negative (Nat.toDigits 10 n)) =
      .ok (.after stack (.int (if negative then -n else n))) := by
  rw [Reader.step, Reader.beginValue, if_neg (Nat.not_lt_of_le h), Number.digitsValue_toDigits]

theorem reads_int {i : Int} {text : List Char} (h : intChars i = .ok text) :
    Reads text (.int i) := by
  intro stack mayClose rest hrest
  unfold intChars at h
  split at h
  next => cases h
  next hlong =>
    have hshort : (Nat.toDigits 10 i.natAbs).length ≤ Number.longestNumeral := by
      simpa [Number.natText] using hlong
    have htext : text = (if i < 0 then ['-'] else []) ++ Nat.toDigits 10 i.natAbs := by
      rw [← Number.toList_intText, ← Except.ok.inj h]
    have hnumeral := fun negative => numeral_toDigits hrest negative i.natAbs
    have hstep := fun negative =>
      @step_int stack mayClose negative i.natAbs hshort
    have hdigit : ∀ c ∈ Nat.toDigits 10 i.natAbs, Number.isAsciiDigit c = true :=
      Number.isAsciiDigit_of_mem_toDigits
    cases hdigits : Nat.toDigits 10 i.natAbs with
    | nil => exact absurd hdigits Nat.toDigits_ne_nil
    | cons d digits =>
      rw [hdigits] at htext hnumeral hstep hdigit
      obtain ⟨hblank, hplain, hminus⟩ :=
        token_of_isAsciiDigit (hdigit d List.mem_cons_self) (digits ++ rest)
      by_cases hnegative : i < 0
      · have habs : -(i.natAbs : Int) = i := by omega
        rw [htext, if_pos hnegative]
        refine (Reader.along_cons rfl (hminus.trans (hnumeral true)) (by simp)).trans ?_
        rw [hstep true, if_pos rfl, habs]
        rfl
      · have habs : (i.natAbs : Int) = i := by omega
        rw [htext, if_neg hnegative]
        refine (Reader.along_cons hblank (hplain.trans (hnumeral false)) (by simp)).trans ?_
        rw [hstep false, if_neg (by simp), habs]
        rfl

/-! ## Containers -/

theorem endsValue_comma (rest : List Char) : EndsValue (',' :: rest) := by simp [EndsValue]

theorem endsValue_closeList (rest : List Char) : EndsValue (']' :: rest) := by simp [EndsValue]

theorem endsValue_closeDict (rest : List Char) : EndsValue ('\x7d' :: rest) := by simp [EndsValue]

/-- Items are read one after the other, up to the end of the list. -/
theorem along_items {v : Value} {vs : List Value} {text : List Char} {texts : List (List Char)}
    (h : List.Forall₂ Reads (text :: texts) (v :: vs)) (items : List Value) (stack : List Frame)
    (mayClose : Bool) (rest : List Char) :
    (Reader.value (.list items :: stack) mayClose).along
        (Text.joinPieces ',' (text :: texts) ++ ']' :: rest) =
      (Reader.after stack (.list (items.reverse ++ v :: vs))).along rest := by
  induction texts generalizing text v vs items mayClose with
  | nil =>
    cases h with
    | cons hfirst hnil =>
      cases hnil
      have hclose : (Reader.after (.list items :: stack) v).step .closeList =
          .ok (.after stack (.list (items.reverse ++ [v]))) := by
        rw [← List.reverse_cons]
        rfl
      rw [Text.joinPieces, hfirst _ _ _ (endsValue_closeList rest),
        Reader.along_mark (by decide) hclose]
  | cons second texts ih =>
    cases h with
    | cons hfirst hmore =>
      cases hmore with
      | cons hsecond hmore =>
        have hcomma : (Reader.after (.list items :: stack) v).step .comma =
            .ok (.value (.list (v :: items) :: stack) false) := rfl
        rw [Text.joinPieces_cons_cons, List.append_assoc, List.cons_append,
          hfirst _ _ _ (endsValue_comma _), Reader.along_mark (by decide) hcomma,
          ih (.cons hsecond hmore), List.reverse_cons, List.append_assoc, List.singleton_append]

theorem reads_list {vs : List Value} {texts : List (List Char)} (h : List.Forall₂ Reads texts vs) :
    Reads ('[' :: Text.joinPieces ',' texts ++ [']']) (.list vs) := by
  intro stack mayClose rest _
  have hopen : (Reader.value stack mayClose).step .openList =
      .ok (.value (.list [] :: stack) true) := rfl
  rw [List.cons_append, List.cons_append, List.append_assoc, List.singleton_append,
    Reader.along_mark (by decide) hopen]
  cases h with
  | nil =>
    have hclose : (Reader.value (.list [] :: stack) true).step .closeList =
        .ok (.after stack (.list [])) := rfl
    exact Reader.along_mark (by decide) hclose rest
  | cons hfirst hmore => exact along_items (.cons hfirst hmore) [] stack true rest

/-! ## Objects -/

/-- The text of a member is read as its key and its value. -/
def ReadsMember (text : List Char) (member : Value × Value) : Prop :=
  ∃ key value, member.1 = .text key ∧ text = stringText key.toList ++ ':' :: value ∧
    Reads value member.2

/-- A member is read up to its end. -/
theorem along_member {text : List Char} {member : Value × Value} (h : ReadsMember text member)
    (stack : List Frame) (entries : List (Value × Value)) (mayClose : Bool) {rest : List Char}
    (hrest : EndsValue rest) :
    (Reader.key stack entries mayClose).along (text ++ rest) =
      (Reader.after (.dict entries member.1 :: stack) member.2).along rest := by
  obtain ⟨key, value, hkey, rfl, hvalue⟩ := h
  have hname : (Reader.key stack entries mayClose).step (.text (key.toList.map .char)) =
      .ok (.colon stack entries (.text key)) := by
    rw [Reader.step, Value.ofPoints_map_char, String.ofList_toList]
  have hcolon : (Reader.colon stack entries (.text key)).step .colon =
      .ok (.value (.dict entries (.text key) :: stack) false) := rfl
  rw [List.append_assoc, along_stringText, hname, Except.bind, List.cons_append,
    Reader.along_mark (by decide) hcolon, hvalue _ _ _ hrest, hkey]

/-- Keys of texts, none of them twice. -/
structure AreKeys (keys : List Value) : Prop where
  texts : ∀ key ∈ keys, ∃ s, key = .text s
  distinct : keys.Nodup

theorem AreKeys.putEntry {member : Value × Value} {entries members : List (Value × Value)}
    (h : AreKeys ((entries ++ member :: members).map Prod.fst)) :
    Value.putEntry member.1 member.2 entries = entries ++ [member] := by
  obtain ⟨key, value⟩ := member
  obtain ⟨htexts, hdistinct⟩ := h
  rw [List.map_append, List.map_cons] at htexts hdistinct
  obtain ⟨s, rfl⟩ := htexts key (List.mem_append_right _ List.mem_cons_self)
  refine Value.putEntry_new fun entry hentry => ?_
  have hmem : entry.1 ∈ entries.map Prod.fst := List.mem_map_of_mem hentry
  obtain ⟨other, hother⟩ := htexts entry.1 (List.mem_append_left _ hmem)
  refine ⟨other, hother, ?_⟩
  rintro rfl
  exact (List.nodup_append.mp hdistinct).2.2 _ hmem _ List.mem_cons_self hother

/-- Members are read one after the other, up to the end of the object. -/
theorem along_members {member : Value × Value} {members : List (Value × Value)}
    {text : List Char} {texts : List (List Char)}
    (h : List.Forall₂ ReadsMember (text :: texts) (member :: members))
    {entries : List (Value × Value)} (hkeys : AreKeys ((entries ++ member :: members).map Prod.fst))
    (stack : List Frame) (mayClose : Bool) (rest : List Char) :
    (Reader.key stack entries mayClose).along
        (Text.joinPieces ',' (text :: texts) ++ '\x7d' :: rest) =
      (Reader.after stack (.dict (entries ++ member :: members))).along rest := by
  induction texts generalizing text member members entries mayClose with
  | nil =>
    cases h with
    | cons hfirst hnil =>
      cases hnil
      have hclose : (Reader.after (.dict entries member.1 :: stack) member.2).step .closeDict =
          .ok (.after stack (.dict (entries ++ [member]))) := by
        rw [Reader.step, Reader.afterValue, hkeys.putEntry]
      rw [Text.joinPieces, along_member hfirst _ _ _ (endsValue_closeDict rest),
        Reader.along_mark (by decide) hclose]
  | cons second texts ih =>
    cases h with
    | cons hfirst hmore =>
      cases hmore with
      | cons hsecond hmore =>
        have hcomma : (Reader.after (.dict entries member.1 :: stack) member.2).step .comma =
            .ok (.key stack (entries ++ [member]) false) := by
          rw [Reader.step, Reader.afterValue, hkeys.putEntry]
        rw [List.append_cons entries member] at hkeys ⊢
        rw [Text.joinPieces_cons_cons, List.append_assoc, List.cons_append,
          along_member hfirst _ _ _ (endsValue_comma _), Reader.along_mark (by decide) hcomma,
          ih (.cons hsecond hmore) hkeys]

theorem reads_dict {members : List (Value × Value)} {texts : List (List Char)}
    (h : List.Forall₂ ReadsMember texts members) (hkeys : AreKeys (members.map Prod.fst)) :
    Reads ('\x7b' :: Text.joinPieces ',' texts ++ ['\x7d']) (.dict members) := by
  intro stack mayClose rest _
  have hopen : (Reader.value stack mayClose).step .openDict = .ok (.key stack [] true) := rfl
  rw [List.cons_append, List.cons_append, List.append_assoc, List.singleton_append,
    Reader.along_mark (by decide) hopen]
  cases h with
  | nil =>
    have hclose : (Reader.key stack [] true).step .closeDict = .ok (.after stack (.dict [])) := rfl
    exact Reader.along_mark (by decide) hclose rest
  | cons hfirst hmore => exact along_members (.cons hfirst hmore) hkeys stack true rest

/-! ## Message values -/

/-- A value of the forms that a message has: null, booleans, whole numbers, texts, and lists and
objects of such values, where the keys of an object are texts and none occurs twice. -/
inductive IsMessageValue : Value → Prop
  | null : IsMessageValue .null
  | bool (b : Bool) : IsMessageValue (.bool b)
  | int (i : Int) : IsMessageValue (.int i)
  | text (s : String) : IsMessageValue (.text s)
  | list {items : List Value} (hitems : ∀ v ∈ items, IsMessageValue v) :
      IsMessageValue (.list items)
  | dict {members : List (Value × Value)} (hkeys : AreKeys (members.map Prod.fst))
      (hvalues : ∀ member ∈ members, IsMessageValue member.2) : IsMessageValue (.dict members)

/-- **The text of a message value is read as that value.** -/
theorem reads_of_write {v : Value} (hv : IsMessageValue v) {text : List Char}
    (h : writeChars v = .ok text) : Reads text v := by
  induction hv generalizing text with
  | null =>
    rw [writeChars] at h
    cases h
    exact reads_null
  | bool b =>
    rw [writeChars] at h
    cases h
    exact reads_bool b
  | int i =>
    rw [writeChars] at h
    exact reads_int h
  | text s =>
    rw [writeChars] at h
    cases h
    exact reads_text s
  | @list items _ ih =>
    obtain ⟨inner, hinner, rfl⟩ := writeChars_list_ok_iff.mp h
    obtain ⟨texts, htexts, rfl⟩ := writeItems_ok_iff.mp hinner
    have hreads : List.Forall₂ (fun v text => Reads text v) items texts :=
      forall₂_of_mem htexts fun v hv text htext => ih v hv htext
    exact reads_list hreads.flip
  | @dict members hkeys _ ih =>
    obtain ⟨inner, hinner, rfl⟩ := writeChars_dict_ok_iff.mp h
    obtain ⟨texts, htexts, rfl⟩ := writeEntries_ok_iff.mp hinner
    have hreads : List.Forall₂ (fun member text => ReadsMember text member) members texts := by
      refine forall₂_of_mem htexts fun member hmember text htext => ?_
      obtain ⟨name, value, hname, hvalue, rfl⟩ := writeEntry_ok_iff.mp htext
      obtain ⟨key, hkey⟩ := hkeys.texts member.1 (List.mem_map_of_mem hmember)
      rw [hkey, keyText] at hname
      cases hname
      exact ⟨key, value, hkey, rfl, ih member hmember hvalue⟩
    exact reads_dict hreads.flip hkeys

/-- The octets of a message value's text are read as that value. -/
theorem readBytes_of_write {v : Value} (hv : IsMessageValue v) {text : String}
    (h : write v = .ok text) : readBytes (Utf8.encode text) = .ok v := by
  obtain ⟨cs, hcs, -, rfl⟩ := write_ok_iff.mp h
  have hreads := reads_of_write hv hcs [] false [] (by simp [EndsValue])
  rw [List.append_nil] at hreads
  rw [readBytes, Utf8.decodeChars?_encode, String.toList_ofList]
  show (Reader.start.along cs).bind Reader.result? = .ok v
  rw [Reader.start, hreads, Reader.along, Token.list]
  rfl

end ConnectRpc.Json
