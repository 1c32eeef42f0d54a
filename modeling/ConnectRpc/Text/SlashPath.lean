import ConnectRpc.Text.Pieces

/-!
# Slash-separated paths

A path is a root and the names below it. The root is empty, one slash, or exactly two slashes (three
or more count as one); empty names and single dots vanish, double dots stay.

* `SlashPath.parse`: the path that a text names.
* `SlashPath.name`, `stem`, `suffix`: the last name and its two halves at the last inner dot.
* `SlashPath.text`: the shortest text of the path, a dot for the empty one.
-/

namespace ConnectRpc

/-- A root (empty, `/` or `//`) and the names below it. -/
structure SlashPath where
  root : String
  names : List String
  deriving DecidableEq, Repr

namespace SlashPath

/-- The root that a text of a path begins with. -/
def rootOf : List Char → String
  | '/' :: '/' :: '/' :: _ => "/"
  | '/' :: '/' :: _ => "//"
  | '/' :: _ => "/"
  | _ => ""

/-- The path that the text names. -/
def parse (s : String) : SlashPath where
  root := rootOf s.toList
  names := (Text.splitText '/' s).filter fun name => name != "" && name != "."

/-- The last name; empty for a bare root. -/
def name (p : SlashPath) : String := p.names.getLast?.getD ""

/-- The root, if there is one, and the names, all as components. -/
def parts (p : SlashPath) : List String :=
  if p.root = "" then p.names else p.root :: p.names

/-- The path without its last name. -/
def parent (p : SlashPath) : SlashPath := { p with names := p.names.dropLast }

/-- The characters before the last dot and those from it on, if that dot is neither the first nor
the last character. -/
def splitSuffix (cs : List Char) : List Char × List Char :=
  let tail := cs.reverse.takeWhile (· != '.')
  let head := cs.take (cs.length - tail.length - 1)
  if tail.length < cs.length && !head.isEmpty && !tail.isEmpty then (head, '.' :: tail.reverse)
  else (cs, [])

/-- The last name without its suffix. -/
def stem (p : SlashPath) : String := String.ofList (splitSuffix p.name.toList).1

/-- The last name from its last inner dot on; empty if there is none. -/
def suffix (p : SlashPath) : String := String.ofList (splitSuffix p.name.toList).2

/-- The text of the path. -/
def text (p : SlashPath) : String :=
  if p.root = "" && p.names.isEmpty then "." else p.root ++ Text.joinText "/" p.names

/-- The path with further names below it. -/
def append (p : SlashPath) (names : List String) : SlashPath := { p with names := p.names ++ names }

end SlashPath

end ConnectRpc
