import ConnectRpc.Bytes
import ConnectRpc.Number.Binary64
import ConnectRpc.Text.Point

/-!
# JSON tokens

A JSON text as its brackets, commas, colons, words, numerals and strings, with the blanks between
them left out. Cutting never fails: where no token begins, the list ends in `bad`, so that the first
fault of a text is the first one met from the left whatever its kind.

Three words beyond the JSON grammar are numbers here: `NaN`, `Infinity` and `-Infinity`.

* `Token.list`: the tokens of a text.
* `stringStep`: one point of a string, an escape counting as what it stands for.
* `numeral`: the longest numeral at the front.
* `stringStep_length_le`, `token_length_le`: what each step leaves is no longer than what it was
  given, which is why the cutting ends.
-/

namespace ConnectRpc.Json

/-- A token of a JSON text. -/
inductive Token where
  | openList
  | closeList
  | openDict
  | closeDict
  | comma
  | colon
  | null
  | bool (b : Bool)
  | text (points : List Text.Point)
  | int (negative : Bool) (digits : List Char)
  | float (x : Number.Binary64)
  | bad
  deriving DecidableEq, Repr

/-- The blanks of the JSON grammar. -/
def isBlank (c : Char) : Bool := c == ' ' || c == '\t' || c == '\n' || c == '\r'

/-! ## Strings -/

/-- One step through a string: its end, a point, or a fault, with the rest of the text. -/
inductive StringStep where
  | close (rest : List Char)
  | point (p : Text.Point) (rest : List Char)
  | malformed

/-- The character that a letter stands for after a backslash. -/
def escaped? (c : Char) : Option Char :=
  if c = '"' ∨ c = '\\' ∨ c = '/' then some c
  else if c = 'b' then some (Char.ofNat 0x8)
  else if c = 'f' then some (Char.ofNat 0xC)
  else if c = 'n' then some '\n'
  else if c = 'r' then some '\r'
  else if c = 't' then some '\t'
  else none

/-- The value of the four hexadecimal digits at the front. -/
def hexFour? : List Char → Option (Nat × List Char)
  | a :: b :: c :: d :: rest => do
    let a ← Bytes.hexValue? a
    let b ← Bytes.hexValue? b
    let c ← Bytes.hexValue? c
    let d ← Bytes.hexValue? d
    return (((a * 16 + b) * 16 + c) * 16 + d, rest)
  | _ => none

/-- The code unit is the first half of a pair. -/
def isHighHalf (n : Nat) : Bool := 0xD800 ≤ n && n < 0xDC00

/-- The code unit is the second half of a pair. -/
def isLowHalf (n : Nat) : Bool := 0xDC00 ≤ n && n < 0xE000

/-- The point of the escape whose four digits are at the front. Two halves of a pair are one
character; a half on its own stays one. -/
def unicodeStep (cs : List Char) : StringStep :=
  match hexFour? cs with
  | none => .malformed
  | some (n, rest) =>
    if isHighHalf n then
      match rest with
      | '\\' :: 'u' :: rest' =>
        match hexFour? rest' with
        | none => .malformed
        | some (m, rest'') =>
          if isLowHalf m then
            .point (.char (Char.ofNat (0x10000 + (n - 0xD800) * 0x400 + (m - 0xDC00)))) rest''
          else .point (.ofNat n) rest
      | _ => .point (.ofNat n) rest
    else .point (.ofNat n) rest

/-- One step through a string from its next character on. -/
def stringStep (c : Char) (rest : List Char) : StringStep :=
  if c = '"' then .close rest
  else if c = '\\' then
    match rest with
    | [] => .malformed
    | e :: rest' =>
      if e = 'u' then unicodeStep rest'
      else
        match escaped? e with
        | some d => .point (.char d) rest'
        | none => .malformed
  else if c.toNat < 0x20 then .malformed
  else .point (.char c) rest

theorem hexFour?_length {cs rest : List Char} {n : Nat} (h : hexFour? cs = some (n, rest)) :
    rest.length + 4 = cs.length := by
  match cs with
  | [] => simp [hexFour?] at h
  | [_] => simp [hexFour?] at h
  | [_, _] => simp [hexFour?] at h
  | [_, _, _] => simp [hexFour?] at h
  | a :: b :: c :: d :: tail =>
    simp only [hexFour?, Option.bind_eq_bind, Option.bind_eq_some_iff, Option.pure_def,
      Option.some.injEq, Prod.mk.injEq] at h
    obtain ⟨_, _, _, _, _, _, _, _, _, rfl⟩ := h
    simp

theorem unicodeStep_length_le {cs rest : List Char} {p : Text.Point}
    (h : unicodeStep cs = .point p rest) : rest.length ≤ cs.length := by
  unfold unicodeStep at h
  split at h
  · cases h
  · next n tail h4 =>
    have hl := hexFour?_length h4
    split at h
    · split at h
      · next rest' =>
        split at h
        · cases h
        · next m tail' h4' =>
          have hl' := hexFour?_length h4'
          simp only [List.length_cons] at hl
          split at h
          · injection h with _ h; subst h; omega
          · injection h with _ h; subst h; simp only [List.length_cons]; omega
      · injection h with _ h; subst h; omega
    · injection h with _ h; subst h; omega

theorem stringStep_length_le {c : Char} {p : Text.Point} {rest rest' : List Char}
    (h : stringStep c rest = .point p rest') : rest'.length ≤ rest.length := by
  unfold stringStep at h
  split at h
  · cases h
  split at h
  · split at h
    · cases h
    · next e tail =>
      split at h
      · have := unicodeStep_length_le h
        simp only [List.length_cons]; omega
      · split at h
        · cases h; simp
        · cases h
  · split at h
    · cases h
    · cases h; exact Nat.le_refl _

theorem stringStep_close_length {c : Char} {rest rest' : List Char}
    (h : stringStep c rest = .close rest') : rest' = rest := by
  unfold stringStep at h
  split at h
  · cases h; rfl
  split at h
  · split at h
    · cases h
    · split at h
      · unfold unicodeStep at h
        repeat' split at h
        all_goals cases h
      · split at h <;> cases h
  · split at h <;> cases h

/-- The points of a string up to its closing quote, and the text after that. -/
def stringPoints : List Char → Option (List Text.Point × List Char)
  | [] => none
  | c :: rest =>
    match _h : stringStep c rest with
    | .malformed => none
    | .close rest' => some ([], rest')
    | .point p rest' => (stringPoints rest').map fun found => (p :: found.1, found.2)
  termination_by cs => cs.length
  decreasing_by
    have := stringStep_length_le _h
    simp; omega

theorem stringPoints_length_lt {cs rest : List Char} {points : List Text.Point}
    (h : stringPoints cs = some (points, rest)) : rest.length < cs.length := by
  fun_induction stringPoints cs generalizing points rest with
  | case1 => cases h
  | case2 => cases h
  | case3 c tail rest' hs =>
    cases h
    rw [stringStep_close_length hs]
    simp
  | case4 c tail p rest' hs ih =>
    simp only [Option.map_eq_some_iff, Prod.mk.injEq] at h
    obtain ⟨⟨points', rest''⟩, hf, _, rfl⟩ := h
    have h1 := ih hf
    have h2 := stringStep_length_le hs
    simp only [List.length_cons]
    omega

/-! ## Numerals -/

/-- The digits at the front and the text after them. -/
def spanDigits (cs : List Char) : List Char × List Char :=
  (cs.takeWhile Number.isAsciiDigit, cs.dropWhile Number.isAsciiDigit)

/-- The digits of a fraction, without the point, if one is at the front. -/
def fraction (cs : List Char) : List Char × List Char :=
  match cs with
  | '.' :: rest =>
    let (digits, rest') := spanDigits rest
    if digits.isEmpty then ([], cs) else (digits, rest')
  | _ => ([], cs)

/-- An exponent, if one is at the front. -/
def exponent? (cs : List Char) : Option (Int × List Char) :=
  match cs with
  | e :: rest =>
    if e = 'e' ∨ e = 'E' then
      let (negative, unsigned) :=
        match rest with
        | '-' :: more => (true, more)
        | '+' :: more => (false, more)
        | _ => (false, rest)
      let (digits, rest') := spanDigits unsigned
      if digits.isEmpty then none
      else
        let n : Int := Number.digitsValue digits
        some (if negative then -n else n, rest')
    else none
  | [] => none

/-- The whole part of a numeral: a zero, or digits that do not begin with one. -/
def wholePart (cs : List Char) : List Char × List Char :=
  match cs with
  | '0' :: rest => (['0'], rest)
  | _ => spanDigits cs

/-- The numeral at the front, after its sign. -/
def numeral (negative : Bool) (cs : List Char) : Token × List Char :=
  let (whole, rest) := wholePart cs
  if whole.isEmpty then (.bad, [])
  else
    let (places, rest) := fraction rest
    match exponent? rest with
    | some (e, rest') =>
      (.float (.ofDecimal negative (Number.digitsValue (whole ++ places)) (e - places.length)),
        rest')
    | none =>
      if places.isEmpty then (.int negative whole, rest)
      else
        (.float (.ofDecimal negative (Number.digitsValue (whole ++ places)) (-places.length)), rest)

/-! ## Tokens -/

/-- The words that stand for values. -/
def words : List (List Char × Token) :=
  [("null".toList, .null), ("true".toList, .bool true), ("false".toList, .bool false),
   ("NaN".toList, .float .nan), ("Infinity".toList, .float (.infinite false)),
   ("-Infinity".toList, .float (.infinite true))]

/-- The word at the front, if there is one. -/
def word? (cs : List Char) : Option (Token × List Char) :=
  (words.find? fun entry => entry.1.isPrefixOf cs).map fun entry =>
    (entry.2, cs.drop entry.1.length)

/-- The token that begins with the character. -/
def token (c : Char) (rest : List Char) : Token × List Char :=
  if c = '[' then (.openList, rest)
  else if c = ']' then (.closeList, rest)
  else if c = Char.ofNat 0x7B then (.openDict, rest)
  else if c = Char.ofNat 0x7D then (.closeDict, rest)
  else if c = ',' then (.comma, rest)
  else if c = ':' then (.colon, rest)
  else if c = '"' then
    match stringPoints rest with
    | some (points, rest') => (.text points, rest')
    | none => (.bad, [])
  else
    match word? (c :: rest) with
    | some found => found
    | none =>
      if c = '-' then numeral true rest
      else numeral false (c :: rest)

theorem length_spanDigits_le (cs : List Char) : (spanDigits cs).2.length ≤ cs.length :=
  (List.dropWhile_sublist _).length_le

theorem length_fraction_le (cs : List Char) : (fraction cs).2.length ≤ cs.length := by
  unfold fraction
  split
  · next rest =>
    have := length_spanDigits_le rest
    simp only [List.length_cons]
    split <;> simp_all
    omega
  · exact Nat.le_refl _

theorem length_exponent?_le {cs rest : List Char} {e : Int} (h : exponent? cs = some (e, rest)) :
    rest.length ≤ cs.length := by
  unfold exponent? at h
  split at h
  · next x tail =>
    split at h
    · have unsigned_le : (match tail with
          | '-' :: more => (true, more)
          | '+' :: more => (false, more)
          | _ => (false, tail)).2.length ≤ tail.length := by
        split <;> simp
      generalize (match tail with
          | '-' :: more => (true, more)
          | '+' :: more => (false, more)
          | _ => (false, tail)) = signed at h unsigned_le
      have := length_spanDigits_le signed.2
      dsimp only at h
      split at h
      · cases h
      · injection h with h
        injection h with _ h
        subst h
        simp only [List.length_cons]
        omega
    · cases h
  · cases h

/-- A whole part that is not empty was taken off the text. -/
theorem length_wholePart_lt {cs : List Char} (h : (wholePart cs).1.isEmpty = false) :
    (wholePart cs).2.length < cs.length := by
  unfold wholePart at h ⊢
  split
  · simp
  · next hz =>
    simp only [spanDigits] at h ⊢
    cases cs with
    | nil => simp at h
    | cons c rest =>
      by_cases hc : Number.isAsciiDigit c = true
      · have := (List.dropWhile_sublist Number.isAsciiDigit (l := rest)).length_le
        simp only [List.dropWhile_cons, hc, if_true, List.length_cons]
        omega
      · simp [hc] at h

/-- A numeral leaves less than it was given, unless there was none. -/
theorem numeral_length (negative : Bool) (cs : List Char) :
    (numeral negative cs).2.length < cs.length ∨ (numeral negative cs).1 = .bad := by
  unfold numeral
  dsimp only
  split
  · exact .inr rfl
  · next h =>
    have hw := length_wholePart_lt (by simpa using h)
    have hf := length_fraction_le (wholePart cs).2
    split
    · next e rest' he =>
      have := length_exponent?_le he
      exact .inl (by dsimp only; omega)
    · split <;> exact .inl (by dsimp only; omega)

theorem word?_length_lt {c : Char} {rest rest' : List Char} {t : Token}
    (h : word? (c :: rest) = some (t, rest')) : rest'.length ≤ rest.length := by
  simp only [word?, Option.map_eq_some_iff, Prod.mk.injEq] at h
  obtain ⟨entry, hfind, _, rfl⟩ := h
  have hpos : ∀ entry ∈ words, 0 < entry.1.length := by decide
  have := hpos entry (List.mem_of_find?_eq_some hfind)
  simp only [List.length_drop, List.length_cons]
  omega

/-- A token leaves no more than what followed its first character, unless there was none. -/
theorem token_length_le (c : Char) (rest : List Char) :
    (token c rest).2.length ≤ rest.length ∨ (token c rest).1 = .bad := by
  unfold token
  repeat' split
  all_goals first
    | exact .inl (Nat.le_refl _)
    | exact .inr rfl
    | skip
  · next h => exact .inl (Nat.le_of_lt (stringPoints_length_lt h))
  · next h => exact .inl (word?_length_lt h)
  · rcases numeral_length true rest with h | h
    · exact .inl (Nat.le_of_lt h)
    · exact .inr h
  · rcases numeral_length false (c :: rest) with h | h
    · exact .inl (by simp only [List.length_cons] at h; omega)
    · exact .inr h

/-- The tokens of a text, `bad` at the first place where none begins. -/
def Token.list : List Char → List Token
  | [] => []
  | c :: rest =>
    if isBlank c then Token.list rest
    else
      if _h : (token c rest).1 = .bad then [.bad]
      else (token c rest).1 :: Token.list (token c rest).2
  termination_by cs => cs.length
  decreasing_by
    · simp
    · have := (token_length_le c rest).resolve_right _h
      simp only [List.length_cons]
      omega

end ConnectRpc.Json
