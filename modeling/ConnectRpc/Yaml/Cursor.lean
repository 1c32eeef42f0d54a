import ConnectRpc.Text.Ranges

/-!
# Places in a YAML text

A cursor is what is left of a text, with the place that has been reached. Lines and columns count
from zero; a byte order mark takes no column.

* `Position.after`: the place behind a character.
* `Cursor.span`: the longest front of characters of a class, and the cursor behind it.
* `Cursor.lineBreak?`: a line break, as the character that stands for it in a value.
-/

namespace ConnectRpc.Yaml

/-! ## Characters -/

/-- Code points that a document may hold. -/
def printableRanges : Text.Ranges :=
  [(0x9, 0xA), (0xD, 0xD), (0x20, 0x7E), (0x85, 0x85), (0xA0, 0xD7FF), (0xE000, 0xFFFD),
   (0x10000, 0x10FFFF)]

/-- The character may stand in a document. -/
def isPrintable (c : Char) : Bool := printableRanges.has c

/-- The character ends a line. -/
def isBreak (c : Char) : Bool :=
  c == '\n' || c == '\r' || c == '\u0085' || c == '\u2028' || c == '\u2029'

/-- The character is a space or a tab. -/
def isSpaceOrTab (c : Char) : Bool := c == ' ' || c == '\t'

/-- The character separates tokens. -/
def isGap (c : Char) : Bool := isSpaceOrTab c || isBreak c

/-- The text ends here, or a character of the class stands here. -/
def endsOr (p : Char → Bool) : List Char → Bool
  | [] => true
  | c :: _ => p c

/-- The text ends here, or a token does. -/
def atGap : List Char → Bool := endsOr isGap

/-- The text ends here, or its line does. -/
def atLineEnd : List Char → Bool := endsOr isBreak

/-- The text ends here, or its line does, or a space stands here. -/
def atSpace : List Char → Bool := endsOr fun c => c == ' ' || isBreak c

/-- Three dashes or three points stand here by themselves: a document starts or ends. -/
def atDocumentMark (mark : Char) : List Char → Bool
  | a :: b :: c :: rest => a == mark && b == mark && c == mark && atGap rest
  | _ => false

/-- A document starts or ends here. -/
def atSeparator (cs : List Char) : Bool := atDocumentMark '-' cs || atDocumentMark '.' cs

/-- The character that stands for a line break in a value. -/
def breakValue (c : Char) : Char := if c == '\u2028' || c == '\u2029' then c else '\n'

/-- The character may stand in the name of an anchor or a handle. -/
def isNameChar (c : Char) : Bool :=
  ('0' ≤ c && c ≤ '9') || ('A' ≤ c && c ≤ 'Z') || ('a' ≤ c && c ≤ 'z') || c == '-' || c == '_'

/-! ## Positions -/

/-- A place in a text. -/
structure Position where
  index : Nat
  line : Nat
  column : Nat
  deriving DecidableEq, Repr

/-- The place where a text starts. -/
def Position.start : Position := ⟨0, 0, 0⟩

/-- The place behind a character. -/
def Position.after (p : Position) (c : Char) : Position :=
  if isBreak c then ⟨p.index + 1, p.line + 1, 0⟩
  else if c == '\uFEFF' then { p with index := p.index + 1 }
  else ⟨p.index + 1, p.line, p.column + 1⟩

/-! ## Cursors -/

/-- What is left of a text, and where it starts. -/
structure Cursor where
  rest : List Char
  position : Position

namespace Cursor

/-- The cursor before a text. -/
def start (cs : List Char) : Cursor := ⟨cs, .start⟩

/-- The cursor behind the next characters. -/
def drop (n : Nat) (c : Cursor) : Cursor :=
  ⟨c.rest.drop n, (c.rest.take n).foldl Position.after c.position⟩

/-- The longest front of characters of a class, and the cursor behind it. -/
def span (p : Char → Bool) (c : Cursor) : List Char × Cursor :=
  let front := c.rest.takeWhile p
  (front, ⟨c.rest.dropWhile p, front.foldl Position.after c.position⟩)

/-- The cursor behind the longest front of characters of a class. -/
def skip (p : Char → Bool) (c : Cursor) : Cursor := (c.span p).2

/-- The rest of the line, and the cursor at its end. -/
def line (c : Cursor) : List Char × Cursor := c.span (!isBreak ·)

/-- The cursor behind spaces and a comment. -/
def skipComment (c : Cursor) : Cursor :=
  let c := c.skip (· == ' ')
  if c.rest.head? = some '#' then c.skip (!isBreak ·) else c

/-- The line break that stands here, as it stands in a value, and the cursor behind it. -/
def lineBreak? (c : Cursor) : Option (Char × Cursor) :=
  match c.rest with
  | [] => none
  | b :: _ => if isBreak b then some (breakValue b, c.drop 1) else none

/-- The cursor behind the line break that stands here, if any. -/
def skipBreak (c : Cursor) : Cursor :=
  match c.lineBreak? with
  | some (_, next) => next
  | none => c

/-- The column that has been reached. -/
def column (c : Cursor) : Nat := c.position.column

end Cursor

end ConnectRpc.Yaml
