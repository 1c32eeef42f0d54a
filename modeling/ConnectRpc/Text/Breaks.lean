import ConnectRpc.Text.Ranges

/-!
# Line breaks

A schema file may end its lines in three ways; `unifyBreaks` writes every one of them as a line feed
before the text is read. `lineBreakRanges` is the wider class of characters at which a text falls
into lines when it is shown.

* `lines`: a text as the list of its lines, without their ends.
-/

namespace ConnectRpc.Text

/-- Carriage returns, alone or before a line feed, become line feeds. -/
def unifyBreaks : List Char → List Char
  | [] => []
  | '\r' :: '\n' :: rest => '\n' :: unifyBreaks rest
  | '\r' :: rest => '\n' :: unifyBreaks rest
  | c :: rest => c :: unifyBreaks rest

/-- Code points of the characters that end a line. -/
def lineBreakRanges : Ranges :=
  [(0xA, 0xD), (0x1C, 0x1E), (0x85, 0x85), (0x2028, 0x2029)]

/-- The lines of the characters, given the characters of the current line in reverse. -/
def linesFrom (current : List Char) : List Char → List (List Char)
  | [] => if current.isEmpty then [] else [current.reverse]
  | '\r' :: '\n' :: rest => current.reverse :: linesFrom [] rest
  | c :: rest =>
    if lineBreakRanges.has c then current.reverse :: linesFrom [] rest
    else linesFrom (c :: current) rest

/-- The lines of a text without their ends; an end at the very end opens no further line. -/
def lines (s : String) : List String := (linesFrom [] s.toList).map String.ofList

end ConnectRpc.Text
