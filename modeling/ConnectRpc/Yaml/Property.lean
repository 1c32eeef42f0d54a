import ConnectRpc.Number.Numeral
import ConnectRpc.Text.Utf8
import ConnectRpc.Yaml.Cursor
import ConnectRpc.Yaml.Token

/-!
# Anchors, tags and directives

The tokens that say something about a node or a document. Each function reads the token that starts
at the cursor and gives the cursor behind it.

* `readName`: the name of an anchor or an alias.
* `readTag`: a tag: in angle brackets, behind a handle, or a mark by itself.
* `readDirective`: a directive with the rest of its line.
-/

namespace ConnectRpc.Yaml

/-- Characters that may follow the name of an anchor or an alias, besides gaps. -/
def endsName : List Char → Bool :=
  endsOr fun c => isGap c || "?:,]\x7d%@\x60".toList.contains c

/-- The name behind the indicator of an anchor or an alias. -/
def readName (c : Cursor) : Except Fault (String × Cursor) :=
  let (name, next) := (c.drop 1).span isNameChar
  if name.isEmpty || !endsName next.rest then .error .malformed
  else .ok (String.ofList name, next)

/-! ## Tags -/

/-- The character may stand in the suffix of a tag. -/
def isUriChar (c : Char) : Bool :=
  isNameChar c || ";/?:@&=+$,.!~*'()[]%".toList.contains c

/-- Adds the characters that held octets spell to the front of further ones. -/
def spellOctets (held : Bytes) (more : Option (List Char)) : Option (List Char) := do
  return (← Utf8.decodeChars? held) ++ (← more)

/-- Resolves escapes: a percent sign and two hexadecimal digits are an octet, and octets in a row
spell characters. -/
def unescapeUri (held : Bytes) : List Char → Option (List Char)
  | [] => Utf8.decodeChars? held
  | '%' :: hi :: lo :: rest =>
    match Bytes.hexValue? hi, Bytes.hexValue? lo with
    | some h, some l => unescapeUri (held ++ [UInt8.ofNat (16 * h + l)]) rest
    | _, _ => none
  | c :: rest =>
    if c == '%' then none
    else spellOctets held ((unescapeUri [] rest).map (c :: ·))

/-- A tag's suffix, or the replacement of a handle. -/
def readUri (c : Cursor) : Except Fault (String × Cursor) :=
  let (raw, next) := c.span isUriChar
  if raw.isEmpty then .error .malformed
  else
    match unescapeUri [] raw with
    | some cs => .ok (String.ofList cs, next)
    | none => .error .malformed

/-- A handle: a mark by itself before a space, or two marks with a name between them that may be
empty. -/
def readHandle (c : Cursor) : Except Fault (String × Cursor) :=
  match c.rest with
  | '!' :: ' ' :: _ => .ok ("!", c.drop 1)
  | '!' :: _ =>
    let (name, next) := (c.drop 1).span isNameChar
    if next.rest.head? = some '!' then .ok ("!" ++ String.ofList name ++ "!", next.drop 1)
    else .error .malformed
  | _ => .error .malformed

/-- A second mark stands in the tag, so that it has a handle of its own. -/
def hasHandle (c : Cursor) : Bool :=
  ((c.drop 1).rest.takeWhile fun c => !(c == ' ' || isBreak c)).contains '!'

/-- The tag that starts at the cursor. -/
def readTag (c : Cursor) : Except Fault (TagText × Cursor) := do
  let (tag, next) ←
    match c.rest with
    | _ :: '<' :: _ => do
      let (uri, next) ← readUri (c.drop 2)
      if next.rest.head? = some '>' then pure (⟨none, uri⟩, next.drop 1) else throw .malformed
    | _ :: rest =>
      if atGap rest then pure (⟨none, "!"⟩, c.drop 1)
      else do
        let (handle, behind) ← if hasHandle c then readHandle c else pure ("!", c.drop 1)
        let (uri, next) ← readUri behind
        pure (⟨some handle, uri⟩, next)
    | [] => throw .malformed
  if atSpace next.rest then return (tag, next) else throw .malformed

/-! ## Directives -/

/-- A part of a version number. -/
def readVersionPart (c : Cursor) : Except Fault (Nat × Cursor) :=
  let (digits, next) := c.span Number.isAsciiDigit
  if digits.isEmpty then .error .malformed
  else if Number.longestNumeral < digits.length then .error (.numeralTooLong digits.length)
  else .ok (Number.digitsValue digits, next)

/-- The version number of a version directive. -/
def readVersion (c : Cursor) : Except Fault (Directive × Cursor) := do
  let (major, next) ← readVersionPart (c.skip (· == ' '))
  if next.rest.head? != some '.' then throw .malformed
  let (minor, next) ← readVersionPart (next.drop 1)
  if atSpace next.rest then return (.version major minor, next) else throw .malformed

/-- The handle and the replacement of a tag directive. -/
def readTagDirective (c : Cursor) : Except Fault (Directive × Cursor) := do
  let (handle, next) ← readHandle (c.skip (· == ' '))
  if next.rest.head? != some ' ' then throw .malformed
  let (replacement, next) ← readUri (next.skip (· == ' '))
  if atSpace next.rest then return (.handle handle replacement, next) else throw .malformed

/-- The directive that starts at the cursor, with the rest of its line. -/
def readDirective (c : Cursor) : Except Fault (Directive × Cursor) := do
  let (name, next) := (c.drop 1).span isNameChar
  if name.isEmpty || !atSpace next.rest then throw .malformed
  let (directive, next) ←
    if name == "YAML".toList then readVersion next
    else if name == "TAG".toList then readTagDirective next
    else pure (.other, next.line.2)
  let ended := next.skipComment
  if atLineEnd ended.rest then return (directive, ended.skipBreak) else throw .malformed

end ConnectRpc.Yaml
