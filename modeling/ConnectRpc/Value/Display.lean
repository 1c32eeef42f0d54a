import ConnectRpc.Number.Shortest
import ConnectRpc.Text.Quoted
import ConnectRpc.Value.Basic

/-!
# Values as texts

Error details that are no texts, and header names and values, are shown in the literal notation of
the generated code: `None`, `True`, quoted texts, brackets of each container's kind, a comma after
the only member of a tuple. A container inside itself is three dots in its own brackets.

* `literal`: the notation.
* `points`, `display`: the text itself for a text, its literal for any other value.
-/

namespace ConnectRpc.Value

/-- The kinds of container, for the brackets of a container inside itself. -/
inductive Bracket where
  | list | tuple | set | dict
  deriving DecidableEq, Repr

/-- The text of a container inside itself. -/
def Bracket.knot : Bracket → String
  | .list => "[...]"
  | .tuple => "(...)"
  | .set => "set(...)"
  | .dict => "\x7b...\x7d"

mutual

/-- The literal notation of a value inside the given containers, innermost first. -/
def literalIn (around : List Bracket) : Value → String
  | .null => "None"
  | .bool true => "True"
  | .bool false => "False"
  | .int i => Number.intText i
  | .float x => x.text
  | .text s => Text.quote s
  | .unpaired t => Text.quotePoints t.points
  | .bytes b => Text.quoteBytes b
  | .list items => "[" ++ literalsIn (.list :: around) items ++ "]"
  | .tuple [v] => "(" ++ literalIn (.tuple :: around) v ++ ",)"
  | .tuple items => "(" ++ literalsIn (.tuple :: around) items ++ ")"
  | .set [] => "set()"
  | .set items => "\x7b" ++ literalsIn (.set :: around) items ++ "\x7d"
  | .dict entries => "\x7b" ++ entriesIn (.dict :: around) entries ++ "\x7d"
  | .enclosing n => ((around[n]?).map Bracket.knot).getD "..."

/-- The literals of members, with commas. -/
def literalsIn (around : List Bracket) : List Value → String
  | [] => ""
  | [v] => literalIn around v
  | v :: rest => literalIn around v ++ ", " ++ literalsIn around rest

/-- The literals of dictionary entries, with colons and commas. -/
def entriesIn (around : List Bracket) : List (Value × Value) → String
  | [] => ""
  | [(k, v)] => literalIn around k ++ ": " ++ literalIn around v
  | (k, v) :: rest =>
    literalIn around k ++ ": " ++ literalIn around v ++ ", " ++ entriesIn around rest

end

/-- The literal notation of a value. -/
def literal (v : Value) : String := literalIn [] v

/-- The text itself, or the literal of any other value. -/
def points (v : Value) : List Text.Point := v.asPoints?.getD (Text.pointsOf (literal v))

/-- The text itself, a half of a character by its escape, or the literal of any other value. -/
def display : Value → String
  | .text s => s
  | .unpaired t => Text.shown t.points
  | v => literal v

end ConnectRpc.Value
