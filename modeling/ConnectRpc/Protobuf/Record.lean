import ConnectRpc.Protobuf.MessageType
import ConnectRpc.Protobuf.Varint
import ConnectRpc.Text.Utf8

/-!
# Messages as octets

A message is a run of members, each a tag and a payload. The tag gives the member's number and the
form of the payload: a varint, four or eight octets, octets behind their length, or a group that
lasts until its end tag.

A member is read for what its number means in the message type. One in a form that does not fit its
meaning, and one whose number means nothing, is passed over; it must be well-formed all the same.

* `decode`: the members of a message, or nothing if the octets are not well-formed.
* `Record.text`, `Record.flag`, `Record.records`, …: the members by number. Of a member that occurs
  several times the last occurrence counts, except that occurrences of one message are put together.
-/

namespace ConnectRpc.Protobuf

/-! ## Tags -/

/-- The form of a payload. -/
inductive Form where
  | varint
  | fixed64
  | octets
  | groupStart
  | groupEnd
  | fixed32
  deriving DecidableEq, Repr

/-- The form that the three low bits of a tag stand for. -/
def form? (n : Nat) : Option Form :=
  [Form.varint, .fixed64, .octets, .groupStart, .groupEnd, .fixed32][n]?

/-- The number of a member and the form of its payload. -/
structure Tag where
  number : Nat
  form : Form
  deriving DecidableEq, Repr

/-- The tag at the front of octets: at most five octets, a number below 2^29 that is not zero. -/
def tag? (bytes : Bytes) : Option (Tag × Bytes) := do
  let (n, rest) ← varint? 5 bytes
  let form ← form? (n % 8)
  if n < 8 ∨ 0x100000000 ≤ n then none else some (⟨n / 8, form⟩, rest)

/-- The octets behind their length, and what follows them. -/
def octets? (bytes : Bytes) : Option (Bytes × Bytes) := do
  let (n, rest) ← varint? 5 bytes
  if 0x80000000 ≤ n ∨ rest.length < n then none else some (rest.take n, rest.drop n)

/-- What follows a number of octets. -/
def skip? (n : Nat) (bytes : Bytes) : Option Bytes :=
  if bytes.length < n then none else some (bytes.drop n)

/-- The greatest number of octets of a number that is a payload. -/
def longestVarint : Nat := 10

/-! ## Groups -/

/-- What follows the payload of a member that is passed over; `group` passes over a group. -/
def skipPayload? (group : Nat → Bytes → Option Bytes) (tag : Tag) (bytes : Bytes) : Option Bytes :=
  match tag.form with
  | .varint => (varint? longestVarint bytes).map (·.2)
  | .fixed64 => skip? 8 bytes
  | .octets => (octets? bytes).map (·.2)
  | .groupStart => group tag.number bytes
  | .groupEnd => none
  | .fixed32 => skip? 4 bytes

/-- What follows the end tag of a group; a step passes over one member, which has at least one
octet. -/
def skipMembers? (group : Nat → Bytes → Option Bytes) (number : Nat) : Nat → Bytes → Option Bytes
  | 0, _ => none
  | steps + 1, bytes => do
    let (tag, rest) ← tag? bytes
    if tag.form = .groupEnd then if tag.number = number then some rest else none
    else skipMembers? group number steps (← skipPayload? group tag rest)

/-- What follows a group; groups may be nested as deep as `depth`. -/
def skipGroup? : Nat → Nat → Bytes → Option Bytes
  | 0, _, _ => none
  | depth + 1, number, bytes => skipMembers? (skipGroup? depth) number bytes.length bytes

/-! ## Members -/

/-- What a member holds. -/
inductive Part where
  | number (n : Nat)
  | octets (bytes : Bytes)
  | record (members : List (Nat × Part))

/-- The members of a message, in their order. -/
abbrev Record := List (Nat × Part)

/-- The octets are numbers one behind the other; a step takes one. -/
def areNumbers : Nat → Bytes → Bool
  | _, [] => true
  | 0, _ => false
  | steps + 1, bytes =>
    match varint? longestVarint bytes with
    | some (_, rest) => areNumbers steps rest
    | none => false

/-- The part that the octets of a member are; `message` reads a message. -/
def partOf? (message : MessageType → Bytes → Option Record) (role : Option Role) (bytes : Bytes) :
    Option Part :=
  match role with
  | none => some (.octets bytes)
  | some (.message type) => (message type bytes).map .record
  | some .numbers => if areNumbers bytes.length bytes then some (.octets bytes) else none

/-- The members of a message; a step reads one member, which has at least one octet. -/
def members? (message : MessageType → Bytes → Option Record) (group : Nat → Bytes → Option Bytes)
    (type : MessageType) : Nat → Bytes → Option Record
  | _, [] => some []
  | 0, _ => none
  | steps + 1, bytes => do
    let (tag, rest) ← tag? bytes
    match tag.form with
    | .varint => do
      let (n, rest) ← varint? longestVarint rest
      let others ← members? message group type steps rest
      return (tag.number, .number (n % 0x10000000000000000)) :: others
    | .octets => do
      let (content, rest) ← octets? rest
      let part ← partOf? message (type.role? tag.number) content
      return (tag.number, part) :: (← members? message group type steps rest)
    | _ => members? message group type steps (← skipPayload? group tag rest)

/-- The members of a message; messages and groups may be nested as deep as `depth`. -/
def read? : Nat → MessageType → Bytes → Option Record
  | 0, _, _ => none
  | depth + 1, type, bytes => members? (read? depth) (skipGroup? depth) type bytes.length bytes

/-- How deep messages and groups may be nested within a message. -/
def deepest : Nat := 100

/-- The members of a message, or nothing if the octets are not well-formed. -/
def decode (type : MessageType) (bytes : Bytes) : Option Record := read? (deepest + 1) type bytes

/-! ## Members by number -/

namespace Record

/-- What the members of a number hold, in their order. -/
def parts (r : Record) (number : Nat) : List Part :=
  r.filterMap fun (n, part) => if n = number then some part else none

/-- The octets that a part holds. -/
def octetsOf? : Part → Option Bytes
  | .octets bytes => some bytes
  | _ => none

/-- The number that a part holds. -/
def numberOf? : Part → Option Nat
  | .number n => some n
  | _ => none

/-- The members that a part holds. -/
def recordOf? : Part → Option Record
  | .record members => some members
  | _ => none

/-- The texts of a member that may occur several times. -/
def texts (r : Record) (number : Nat) : List String :=
  ((r.parts number).filterMap octetsOf?).map Utf8.decodeLossy

/-- The text of a member; empty where there is none. -/
def text (r : Record) (number : Nat) : String := (r.texts number).getLast?.getD ""

/-- The numbers of a member, in their order. -/
def numbers (r : Record) (number : Nat) : List Nat := (r.parts number).filterMap numberOf?

/-- The truth of a member: it is there and not zero. -/
def flag (r : Record) (number : Nat) : Bool :=
  match (r.numbers number).getLast? with
  | some n => n != 0
  | none => false

/-- The constant that a member names in an enumeration, by the low 32 bits of its number; numbers
that the enumeration does not have are as if they were not there. -/
def constant? {α : Type} (r : Record) (number : Nat) (ofNumber? : Nat → Option α) : Option α :=
  ((r.numbers number).filterMap fun n => ofNumber? (n % 0x100000000)).getLast?

/-- The messages of a member that may occur several times. -/
def records (r : Record) (number : Nat) : List Record := (r.parts number).filterMap recordOf?

/-- The message of a member, its occurrences put together. -/
def record (r : Record) (number : Nat) : Record := (r.records number).flatten

end Record

/-! ## Writing -/

/-- The octets of a member with a length. -/
def octetsMember (number : Nat) (bytes : Bytes) : Bytes :=
  varint (8 * number + 2) ++ varint bytes.length ++ bytes

/-- The octets of a member that is a text. -/
def textMember (number : Nat) (s : String) : Bytes := octetsMember number (Utf8.encode s)

/-- The octets of a member that is a number. -/
def numberMember (number n : Nat) : Bytes := varint (8 * number) ++ varint n

end ConnectRpc.Protobuf
