import ConnectRpc.Bytes
import ConnectRpc.Number.Binary64
import ConnectRpc.Text.Point

/-!
# Dynamic values

What a request message may hold and what a decoded event is. A JSON document uses `null`, `bool`,
`int`, `float`, `text`, `list`, and `dict` with `text` keys, and `unpaired` where an escape gives
half a character; the other forms occur in request data only, where they are refused or written in
the nearest JSON form.

A container may hold itself. Such a knot is written with `enclosing n`: the container `n` levels
above the place where it stands, the innermost one being level 0.

* `sameKey`: which keys of a dictionary are one key. Booleans and numbers are compared by value.
* `putEntry`: a repeated key keeps its place and takes the later value.
* `ofPoints`: the text of points, with or without halves of characters.
-/

namespace ConnectRpc

/-- A dynamic value. -/
inductive Value where
  | null
  | bool (b : Bool)
  | int (i : Int)
  | float (x : Number.Binary64)
  | text (s : String)
  /-- A text in which there is half a character. -/
  | unpaired (t : Text.Unpaired)
  | bytes (b : Bytes)
  | list (items : List Value)
  | tuple (items : List Value)
  | set (items : List Value)
  | dict (entries : List (Value × Value))
  | enclosing (level : Nat)
  deriving Repr, Inhabited

namespace Value

/-- The integer that a boolean or a number equals. -/
def toInt? : Value → Option Int
  | .bool b => some (if b then 1 else 0)
  | .int i => some i
  | .float x => x.toInt?
  | _ => none

mutual

/-- The two values are one key: equal texts, equal octets, numbers of equal value, tuples of the
same keys. -/
def sameKey : Value → Value → Bool
  | .null, .null => true
  | .text s, .text t => s == t
  | .unpaired s, .unpaired t => s == t
  | .bytes s, .bytes t => s == t
  | .tuple items, .tuple items' => sameKeys items items'
  | .float x, .float y => x.same y
  | .bool b, w => toInt? w == some (if b then 1 else 0)
  | .int i, w => toInt? w == some i
  | .float x, w => (toInt? w).isSome && toInt? w == x.toInt?
  | _, _ => false

/-- Two lists of keys agree place by place. -/
def sameKeys : List Value → List Value → Bool
  | [], [] => true
  | v :: vs, w :: ws => sameKey v w && sameKeys vs ws
  | _, _ => false

end

/-- Sets a key of a dictionary: in its place if it is there, at the end if not. -/
def putEntry (key value : Value) : List (Value × Value) → List (Value × Value)
  | [] => [(key, value)]
  | (k, v) :: rest =>
    if sameKey k key then (k, value) :: rest else (k, v) :: putEntry key value rest

/-- A dictionary from pairs, the later of two equal keys winning the value. -/
def ofPairs (pairs : List (Value × Value)) : Value :=
  .dict (pairs.foldl (fun entries pair => putEntry pair.1 pair.2 entries) [])

/-- A set from members, each kept once. -/
def ofMembers (members : List Value) : Value :=
  .set (members.foldl (fun kept v => if kept.any (sameKey v) then kept else kept ++ [v]) [])

/-- The value under a text key of a dictionary. -/
def get? (key : String) : Value → Option Value
  | .dict entries => (entries.find? fun entry =>
      match entry.1 with
      | .text k => k == key
      | _ => false).map (·.2)
  | _ => none

/-- The text that a value is. -/
def asText? : Value → Option String
  | .text s => some s
  | _ => none

/-- The points of a value that is a text. -/
def asPoints? : Value → Option (List Text.Point)
  | .text s => some (Text.pointsOf s)
  | .unpaired t => some t.points
  | _ => none

/-- The text of points. -/
def ofPoints (points : List Text.Point) : Value :=
  match h : Text.chars? points with
  | some cs => .text (String.ofList cs)
  | none => .unpaired ⟨points, h⟩

theorem ofPoints_map_char (cs : List Char) :
    ofPoints (cs.map .char) = .text (String.ofList cs) := by
  have hchars := Text.chars?_map_char cs
  unfold ofPoints
  split
  · next h => rw [hchars] at h; cases h; rfl
  · next h => rw [hchars] at h; cases h

/-- The value is neither empty, zero, false nor null. -/
def isTrue : Value → Bool
  | .null => false
  | .bool b => b
  | .int i => i != 0
  | .float x => !x.isZero
  | .text s => s != ""
  | .unpaired _ => true
  | .bytes b => !b.isEmpty
  | .list items => !items.isEmpty
  | .tuple items => !items.isEmpty
  | .set items => !items.isEmpty
  | .dict entries => !entries.isEmpty
  | .enclosing _ => true

/-- The value is a boolean or a number. -/
def isNumber : Value → Bool
  | .bool _ => true
  | .int _ => true
  | .float _ => true
  | _ => false

/-- The word for a value's form that refusals use. -/
def formName : Value → String
  | .null => "NoneType"
  | .bool _ => "bool"
  | .int _ => "int"
  | .float _ => "float"
  | .text _ => "str"
  | .unpaired _ => "str"
  | .bytes _ => "bytes"
  | .list _ => "list"
  | .tuple _ => "tuple"
  | .set _ => "set"
  | .dict _ => "dict"
  | .enclosing _ => "dict"

end Value

end ConnectRpc
