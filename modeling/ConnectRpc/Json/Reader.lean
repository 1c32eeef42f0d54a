import ConnectRpc.Json.Token
import ConnectRpc.Text.Utf8
import ConnectRpc.Value.Basic

/-!
# Reading JSON

A text is read in one pass over its tokens with a stack of the containers that are still open. Each
token either moves the reader on or is a fault, so the reader is a fold and always ends.

A repeated member of an object keeps its first place and its last value. The one text of the grammar
that is refused is a whole number of more than `Number.longestNumeral` digits.

* `Reader.step`: one token.
* `read`, `readBytes`: whole texts.
* `run_append`: reading two stretches of tokens is reading the second after the first.
-/

namespace ConnectRpc.Json

/-- Why a text is no value. -/
inductive ReadError where
  | malformed
  | numeralTooLong (digits : Nat)
  deriving DecidableEq, Repr

/-- A container that is still open, with what it holds so far. -/
inductive Frame where
  /-- A list, its items in reverse. -/
  | list (items : List Value)
  /-- A dictionary and the key whose value comes next. -/
  | dict (entries : List (Value × Value)) (key : Value)
  deriving Repr

/-- What the reader may meet next. -/
inductive Reader where
  /-- A value; or the end of the list that was just opened. -/
  | value (stack : List Frame) (mayClose : Bool)
  /-- A key; or the end of the dictionary that was just opened. -/
  | key (stack : List Frame) (entries : List (Value × Value)) (mayClose : Bool)
  /-- The colon after a key. -/
  | colon (stack : List Frame) (entries : List (Value × Value)) (key : Value)
  /-- After a whole value: a comma, the end of a container, or the end of the text. -/
  | after (stack : List Frame) (v : Value)
  deriving Repr

namespace Reader

/-- Before the first token. -/
def start : Reader := .value [] false

/-- A token where a value may stand. -/
def beginValue (stack : List Frame) (mayClose : Bool) : Token → Except ReadError Reader
  | .null => .ok (.after stack .null)
  | .bool b => .ok (.after stack (.bool b))
  | .text points => .ok (.after stack (.ofPoints points))
  | .float x => .ok (.after stack (.float x))
  | .int negative digits =>
    if digits.length > Number.longestNumeral then .error (.numeralTooLong digits.length)
    else
      let n : Int := Number.digitsValue digits
      .ok (.after stack (.int (if negative then -n else n)))
  | .openList => .ok (.value (.list [] :: stack) true)
  | .openDict => .ok (.key stack [] true)
  | .closeList =>
    match stack, mayClose with
    | .list items :: below, true => .ok (.after below (.list items.reverse))
    | _, _ => .error .malformed
  | _ => .error .malformed

/-- A token after a whole value. -/
def afterValue (stack : List Frame) (v : Value) (t : Token) : Except ReadError Reader :=
  match stack, t with
  | .list items :: below, .comma => .ok (.value (.list (v :: items) :: below) false)
  | .list items :: below, .closeList => .ok (.after below (.list (v :: items).reverse))
  | .dict entries name :: below, .comma => .ok (.key below (Value.putEntry name v entries) false)
  | .dict entries name :: below, .closeDict =>
    .ok (.after below (.dict (Value.putEntry name v entries)))
  | _, _ => .error .malformed

/-- The reader after one more token. -/
def step (r : Reader) (t : Token) : Except ReadError Reader :=
  match r, t with
  | .value stack mayClose, t => beginValue stack mayClose t
  | .key stack entries _, .text points => .ok (.colon stack entries (.ofPoints points))
  | .key stack entries true, .closeDict => .ok (.after stack (.dict entries))
  | .key _ _ _, _ => .error .malformed
  | .colon stack entries name, .colon => .ok (.value (.dict entries name :: stack) false)
  | .colon _ _ _, _ => .error .malformed
  | .after stack v, t => afterValue stack v t

/-- The reader after a stretch of tokens. -/
def run (r : Reader) (tokens : List Token) : Except ReadError Reader := tokens.foldlM step r

theorem run_nil (r : Reader) : r.run [] = .ok r := rfl

theorem run_cons (r : Reader) (t : Token) (tokens : List Token) :
    r.run (t :: tokens) = (r.step t).bind fun next => next.run tokens := rfl

theorem run_append (r : Reader) (first second : List Token) :
    r.run (first ++ second) = (r.run first).bind fun next => next.run second := by
  simp only [run, List.foldlM_append]
  rfl

/-- The value that was read, if the text may end here. -/
def result? : Reader → Except ReadError Value
  | .after [] v => .ok v
  | _ => .error .malformed

end Reader

/-- The value of a JSON text. -/
def read (cs : List Char) : Except ReadError Value :=
  (Reader.start.run (Token.list cs)).bind Reader.result?

/-- The value of octets that are a JSON text in UTF-8. -/
def readBytes (bytes : Bytes) : Except ReadError Value :=
  match Utf8.decodeChars? bytes with
  | some cs => read cs
  | none => .error .malformed

end ConnectRpc.Json
