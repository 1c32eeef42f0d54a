import ConnectRpc.Text.Capitals
import ConnectRpc.Text.Pieces
import ConnectRpc.Text.Point

/-!
# Keys of fields

A field travels under a key. A declaration that gives none means the key that follows from the
field's name: the underscores gone, and the first character behind each of them in its capital form.

* `jsonName`: the key that follows from a name.
* `jsonNamePoints`: the same for a name that may hold halves of characters, which have no capitals.
* `jsonNamePoints_pointsOf`: where it holds none, the two agree.
-/

namespace ConnectRpc.Schema

open Text (Point)

/-- The characters of the key of a field whose declaration gives none. -/
def jsonNameChars (cs : List Char) : List Char :=
  match Text.pieces '_' cs with
  | [] => []
  | first :: rest => first ++ rest.flatMap Text.capitaliseChars

/-- The key of a field whose declaration gives none. -/
def jsonName (name : String) : String := String.ofList (jsonNameChars name.toList)

/-- The points with the first one in capital form. -/
def capitalisePoints : List Point → List Point
  | [] => []
  | .char c :: rest => (Text.capital c).map .char ++ rest
  | .half h :: rest => .half h :: rest

/-- The points of the key of a field whose declaration gives none. -/
def jsonNamePoints (points : List Point) : List Point :=
  match Text.pieces (.char '_') points with
  | [] => []
  | first :: rest => first ++ rest.flatMap capitalisePoints

theorem capitalisePoints_map_char (cs : List Char) :
    capitalisePoints (cs.map .char) = (Text.capitaliseChars cs).map .char := by
  cases cs with
  | nil => rfl
  | cons c rest => simp [capitalisePoints, Text.capitaliseChars]

theorem jsonNamePoints_map_char (cs : List Char) :
    jsonNamePoints (cs.map .char) = (jsonNameChars cs).map .char := by
  rw [jsonNamePoints, jsonNameChars, Text.pieces_map fun _ _ => Point.char.inj]
  cases Text.pieces '_' cs with
  | nil => rfl
  | cons first rest =>
    simp [List.flatMap_map, List.map_flatMap, capitalisePoints_map_char]

/-- The key that follows from a text of characters. -/
theorem jsonNamePoints_pointsOf (name : String) :
    jsonNamePoints (Text.pointsOf name) = Text.pointsOf (jsonName name) := by
  rw [Text.pointsOf, jsonNamePoints_map_char, Text.pointsOf, jsonName, String.toList_ofList]

end ConnectRpc.Schema
