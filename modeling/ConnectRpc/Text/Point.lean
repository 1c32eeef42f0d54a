import ConnectRpc.Text.Quoted

/-!
# Texts with halves of characters

A character beyond U+FFFF can be given as two halves, which are numbers that no character has. An
escape, or whoever makes up a text, may give one half without the other. Such a text is no text of
characters, and it has no octets in UTF-8.

* `Point`: a character, or a half that stands alone.
* `chars?`: the characters of points, if none of them is a half.
* `Unpaired`: a text in which there is a half.
-/

namespace ConnectRpc.Text

/-- Half of a character. -/
structure Half where
  number : Nat
  isHalf : 0xD800 ≤ number ∧ number < 0xE000
  deriving DecidableEq, Repr

/-- The half as messages show it. -/
def Half.escape (h : Half) : List Char := '\\' :: 'u' :: hexPadded 4 h.number

/-- What stands at one place of a text. -/
inductive Point where
  | char (c : Char)
  | half (h : Half)
  deriving DecidableEq, Repr

namespace Point

/-- The number of a point. -/
def number : Point → Nat
  | .char c => c.toNat
  | .half h => h.number

/-- The point that has a number. -/
def ofNat (n : Nat) : Point :=
  if h : 0xD800 ≤ n ∧ n < 0xE000 then .half ⟨n, h⟩ else .char (Char.ofNat n)

/-- The character, or U+FFFD for a half. -/
def mended : Point → Char
  | .char c => c
  | .half _ => Char.ofNat 0xFFFD

/-- The character, or the escape of a half. -/
def shown : Point → List Char
  | .char c => [c]
  | .half h => h.escape

/-- The point between the quotes `q`. -/
def quoted (q : Char) : Point → List Char
  | .char c => quoteChar q c
  | .half h => h.escape

end Point

/-- The points of a text of characters. -/
def pointsOf (s : String) : List Point := s.toList.map .char

theorem pointsOf_inj {s t : String} : pointsOf s = pointsOf t ↔ s = t := by
  rw [pointsOf, pointsOf, List.map_inj_right fun _ _ => Point.char.inj, String.toList_inj]

/-- The characters of points, if none of them is a half. -/
def chars? : List Point → Option (List Char)
  | [] => some []
  | .char c :: rest => (chars? rest).map (c :: ·)
  | .half _ :: _ => none

theorem chars?_map_char (cs : List Char) : chars? (cs.map .char) = some cs := by
  induction cs with
  | nil => rfl
  | cons c cs ih => simp [chars?, ih]

/-- The text of characters that points are, if none of them is a half. -/
def characters? (points : List Point) : Option String := (chars? points).map String.ofList

/-- The points as messages show them. -/
def shown (points : List Point) : String := String.ofList (points.flatMap Point.shown)

/-- The points between quotes, on one line. -/
def quotePoints (points : List Point) : String :=
  let q := quoteFor (points.map Point.mended)
  String.ofList (q :: points.flatMap (Point.quoted q) ++ [q])

/-- A text in which there is a half. -/
structure Unpaired where
  points : List Point
  isUnpaired : chars? points = none
  deriving DecidableEq, Repr

/-- The characters with U+FFFD for each half. -/
def Unpaired.mended (t : Unpaired) : List Char := t.points.map Point.mended

end ConnectRpc.Text
