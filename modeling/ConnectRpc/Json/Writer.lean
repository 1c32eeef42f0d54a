import ConnectRpc.Number.Shortest
import ConnectRpc.Text.Quoted
import ConnectRpc.Value.Basic

/-!
# Writing JSON

A value as one line of JSON without blanks. Characters stand for themselves but for the quote, the
backslash and the controls below U+0020. A tuple is written as a list; a key that is a number, a
boolean or null is written as the text of that value. Octets, sets, containers inside themselves and
whole numbers of more than `Number.longestNumeral` digits have no JSON form. Half a character has
one, but no octets: a text with one in it is written, and then refused as a whole.

* `writeChars`: the text, with U+FFFD for half a character.
* `write`: the text, or why there is none.
* `EncodeError.message`: the wording of each refusal.
-/

namespace ConnectRpc.Json

/-- Why a value has no JSON text. -/
inductive EncodeError where
  /-- A form that JSON lacks. -/
  | unwritable (form : String)
  /-- A key of a form that no member name can be written for. -/
  | badKey (form : String)
  /-- A container that holds itself. -/
  | circular
  /-- A whole number with too many digits. -/
  | numeralTooLong
  deriving DecidableEq, Repr

/-- The wording of a refusal. -/
def EncodeError.message : EncodeError → String
  | .unwritable form => "Object of type " ++ form ++ " is not JSON serializable"
  | .badKey form => "keys must be str, int, float, bool or None, not " ++ form
  | .circular => "Circular reference detected"
  | .numeralTooLong =>
    "Exceeds the limit (" ++ Number.natText Number.longestNumeral ++
      " digits) for integer string conversion; use sys.set_int_max_str_digits() " ++
      "to increase the limit"

/-- A character inside a JSON string. -/
def stringChar (c : Char) : List Char :=
  if c = '"' then ['\\', '"']
  else if c = '\\' then ['\\', '\\']
  else if c = '\n' then ['\\', 'n']
  else if c = '\r' then ['\\', 'r']
  else if c = '\t' then ['\\', 't']
  else if c = Char.ofNat 0xC then ['\\', 'f']
  else if c = Char.ofNat 0x8 then ['\\', 'b']
  else if c.toNat < 0x20 then '\\' :: 'u' :: Text.hexPadded 4 c.toNat
  else [c]

/-- A JSON string. -/
def stringText (cs : List Char) : List Char := '"' :: cs.flatMap stringChar ++ ['"']

/-- A number of the binary64 format; the three that are no reals have a word each. -/
def floatText : Number.Binary64 → List Char
  | .nan => "NaN".toList
  | .infinite false => "Infinity".toList
  | .infinite true => "-Infinity".toList
  | x => x.text.toList

/-- A whole number, if it has no more digits than a reader takes. -/
def intChars (i : Int) : Except EncodeError (List Char) :=
  if (Number.natText i.natAbs).length > Number.longestNumeral then .error .numeralTooLong
  else .ok (Number.intText i).toList

/-- The member name of a key. -/
def keyText : Value → Except EncodeError (List Char)
  | .text s => .ok s.toList
  | .unpaired t => .ok t.mended
  | .float x => .ok (floatText x)
  | .bool b => .ok (if b then "true" else "false").toList
  | .null => .ok "null".toList
  | .int i => intChars i
  | v => .error (.badKey v.formName)

mutual

/-- The JSON text of a value, with U+FFFD for half a character. -/
def writeChars : Value → Except EncodeError (List Char)
  | .null => .ok "null".toList
  | .bool b => .ok (if b then "true" else "false").toList
  | .int i => intChars i
  | .float x => .ok (floatText x)
  | .text s => .ok (stringText s.toList)
  | .unpaired t => .ok (stringText t.mended)
  | .bytes _ => .error (.unwritable "bytes")
  | .set _ => .error (.unwritable "set")
  | .enclosing _ => .error .circular
  | .list items => do return '[' :: (← writeItems items) ++ [']']
  | .tuple items => do return '[' :: (← writeItems items) ++ [']']
  | .dict entries => do return '\x7b' :: (← writeEntries entries) ++ ['\x7d']

/-- The items of a list, with commas. -/
def writeItems : List Value → Except EncodeError (List Char)
  | [] => .ok []
  | [v] => writeChars v
  | v :: rest => do
    let first ← writeChars v
    let more ← writeItems rest
    return first ++ ',' :: more

/-- The members of an object, with commas. -/
def writeEntries : List (Value × Value) → Except EncodeError (List Char)
  | [] => .ok []
  | [(k, v)] => do
    let name ← keyText k
    let value ← writeChars v
    return stringText name ++ ':' :: value
  | (k, v) :: rest => do
    let name ← keyText k
    let value ← writeChars v
    let more ← writeEntries rest
    return stringText name ++ ':' :: value ++ ',' :: more

end

/-- The text of the value has half a character in it. -/
def isHalved : Value → Bool
  | .unpaired _ => true
  | _ => false

mutual

/-- Half a character stands in what is written of the value: in a text of it, or in a key. -/
def hasHalf : Value → Bool
  | .list items => haveHalf items
  | .tuple items => haveHalf items
  | .dict entries => entriesHaveHalf entries
  | v => isHalved v

/-- Half a character stands in one of the values. -/
def haveHalf : List Value → Bool
  | [] => false
  | v :: rest => hasHalf v || haveHalf rest

/-- Half a character stands in one of the entries. -/
def entriesHaveHalf : List (Value × Value) → Bool
  | [] => false
  | (k, v) :: rest => isHalved k || hasHalf v || entriesHaveHalf rest

end

/-- Why a value is not written. -/
inductive WriteError where
  /-- It has no JSON text. -/
  | refused (reason : EncodeError)
  /-- Its JSON text has half a character in it, and so no octets. -/
  | halved
  deriving DecidableEq, Repr

/-- The JSON text of a value, if that has octets. -/
def write (v : Value) : Except WriteError String :=
  match writeChars v with
  | .error reason => .error (.refused reason)
  | .ok cs => if hasHalf v then .error .halved else .ok (String.ofList cs)

end ConnectRpc.Json
