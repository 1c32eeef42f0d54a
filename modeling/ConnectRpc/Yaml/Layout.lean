import ConnectRpc.Yaml.BlockScalar
import ConnectRpc.Yaml.PlainScalar
import ConnectRpc.Yaml.Property
import ConnectRpc.Yaml.QuotedScalar

/-!
# From text to tokens

Tokens are read from the left. Two things are known later than the place they belong to: that
indentation opens a collection, and that a node was the key of a mapping, which only the colon
behind it says. So the layout keeps, for the block and for every flow collection that is open, the
place of the last token that could start a key, and puts the missing tokens in front of it when the
colon comes. A key lies within one line and 1024 characters.

* `Layout.next`: reads one token, with those that indentation implies before it.
* `tokens`: the tokens of a text. A fault hides the tokens before it that were waiting for their
  colon, because whoever reads the tokens would have been stopped by the fault before it got them.
-/

namespace ConnectRpc.Yaml

/-- A token that may turn out to start a key. -/
structure PendingKey where
  /-- How many tokens are before it. -/
  number : Nat
  /-- A colon must follow, for the token stands where only a key can. -/
  isRequired : Bool
  position : Position

/-- The longest distance from the start of a key to its colon. -/
def longestKey : Nat := 1024

/-- The key that starts at one position can end at another. -/
def PendingKey.reaches (k : PendingKey) (p : Position) : Bool :=
  k.position.line == p.line && p.index - k.position.index ≤ longestKey

/-- What is open at a place in a text, and the tokens so far. -/
structure Layout where
  cursor : Cursor
  /-- A token that stands here may start a key. -/
  allowsKey : Bool
  /-- The token that may start a key, in the innermost open collection. -/
  key : Option PendingKey
  /-- The same for the collections around it; there is one around every flow collection. -/
  outerKeys : List (Option PendingKey)
  /-- The columns of the open block collections, innermost first. -/
  indents : List Nat
  /-- The tokens so far, latest first. -/
  tokens : List Token
  /-- The number of the tokens so far. -/
  count : Nat

namespace Layout

/-- The layout before a text. -/
def start (cs : List Char) : Layout :=
  { cursor := .start cs, allowsKey := true, key := none, outerKeys := [], indents := [],
    tokens := [], count := 0 }

/-- The place lies within a flow collection. -/
def inFlow (s : Layout) : Bool := !s.outerKeys.isEmpty

/-- The column that has been reached. -/
def column (s : Layout) : Nat := s.cursor.column

/-- Adds a token. -/
def push (s : Layout) (t : Token) : Layout :=
  { s with tokens := t :: s.tokens, count := s.count + 1 }

/-- Adds a token that takes up the next characters. -/
def pushOver (s : Layout) (n : Nat) (t : Token) : Layout :=
  { s.push t with cursor := s.cursor.drop n }

/-- Puts a token before the one of a number. -/
def insertAt (s : Layout) (number : Nat) (t : Token) : Layout :=
  let later := s.count - number
  { s with tokens := s.tokens.take later ++ t :: s.tokens.drop later, count := s.count + 1 }

/-! ## Keys -/

/-- Gives up the key that may have started in the innermost collection. -/
def dropKey (s : Layout) : Except Fault Layout :=
  match s.key with
  | some k => if k.isRequired then .error .malformed else .ok { s with key := none }
  | none => .ok s

/-- A key if it can still end here; a required one must. -/
def keepReaching (p : Position) : Option PendingKey → Except Fault (Option PendingKey)
  | none => .ok none
  | some k =>
    if k.reaches p then .ok (some k)
    else if k.isRequired then .error .malformed
    else .ok none

/-- Gives up the keys that cannot end here. -/
def dropUnreaching (s : Layout) : Except Fault Layout := do
  let key ← keepReaching s.cursor.position s.key
  let outerKeys ← s.outerKeys.mapM (keepReaching s.cursor.position)
  return { s with key, outerKeys }

/-- Notes that the next token may start a key, if one may start here. -/
def noteKey (s : Layout) : Except Fault Layout :=
  if s.allowsKey then do
    let isRequired := !s.inFlow && s.indents.head? == some s.column
    let s ← s.dropKey
    return { s with key := some ⟨s.count, isRequired, s.cursor.position⟩ }
  else .ok s

/-! ## Indentation -/

/-- Closes block collections from the inside as long as their columns are of a kind; inside flow
collections indentation means nothing. -/
def closeWhile (p : Nat → Bool) (s : Layout) : Layout :=
  if s.inFlow then s
  else
    let closed := (s.indents.takeWhile p).length
    { s with
      indents := s.indents.drop closed
      tokens := List.replicate closed Token.blockEnd ++ s.tokens
      count := s.count + closed }

/-- The block collection in which the place lies is less deep than a column. -/
def isShallower (s : Layout) (column : Nat) : Bool :=
  match s.indents with
  | [] => true
  | indent :: _ => indent < column

/-- Opens a block collection at a column. -/
def indent (s : Layout) (column : Nat) : Layout := { s with indents := column :: s.indents }

/-! ## Blanks and comments -/

/-- Skips spaces, comments and line breaks; says whether there was a line break. -/
def skipFrom (inComment crossed : Bool) (p : Position) : List Char → Cursor × Bool
  | [] => (⟨[], p⟩, crossed)
  | c :: rest =>
    if isBreak c then skipFrom false true (p.after c) rest
    else if inComment || c == ' ' then skipFrom inComment crossed (p.after c) rest
    else if c == '#' then skipFrom true crossed (p.after c) rest
    else (⟨c :: rest, p⟩, crossed)

/-- Skips what stands before the next token. A byte order mark may stand at the very start, and
behind a line break outside flow collections a key may start. -/
def skipBlanks (s : Layout) : Layout :=
  let c :=
    if s.cursor.position.index = 0 && s.cursor.rest.head? == some '\uFEFF' then s.cursor.drop 1
    else s.cursor
  let (cursor, crossed) := skipFrom false false c.position c.rest
  { s with cursor, allowsKey := s.allowsKey || (crossed && !s.inFlow) }

/-! ## Tokens -/

/-- The end of the text. -/
def readEnd (s : Layout) : Except Fault Layout := do
  let s ← (s.closeWhile fun _ => true).dropKey
  return { s.push .streamEnd with allowsKey := false, key := none, outerKeys := [] }

/-- A directive. -/
def readDirectiveToken (s : Layout) : Except Fault Layout := do
  let s ← (s.closeWhile fun _ => true).dropKey
  let (d, cursor) ← readDirective s.cursor
  return { s.push (.directive d) with cursor, allowsKey := false }

/-- The start or the end of a document. -/
def readDocumentMark (s : Layout) (t : Token) : Except Fault Layout := do
  let s ← (s.closeWhile fun _ => true).dropKey
  return { s.pushOver 3 t with allowsKey := false }

/-- The start of a flow collection. -/
def readFlowStart (s : Layout) (t : Token) : Except Fault Layout := do
  let s ← s.noteKey
  return { s.pushOver 1 t with allowsKey := true, key := none, outerKeys := s.key :: s.outerKeys }

/-- The end of a flow collection. -/
def readFlowEnd (s : Layout) (t : Token) : Except Fault Layout := do
  let s ← s.dropKey
  return { s.pushOver 1 t with
    allowsKey := false, key := s.outerKeys.head?.join, outerKeys := s.outerKeys.tail }

/-- The end of an entry of a flow collection. -/
def readFlowEntry (s : Layout) : Except Fault Layout := do
  let s ← s.dropKey
  return { s.pushOver 1 .flowEntry with allowsKey := true }

/-- Opens a block collection at the cursor if the indentation asks for one; an entry of a block
collection starts only where a key may. -/
def openBlock (s : Layout) (t : Token) : Except Fault Layout :=
  if s.inFlow then .ok s
  else if !s.allowsKey then .error .malformed
  else if s.isShallower s.column then .ok ((s.indent s.column).push t)
  else .ok s

/-- The start of an entry of a sequence. -/
def readSequenceEntry (s : Layout) : Except Fault Layout := do
  let s ← (← s.openBlock .sequenceStart).dropKey
  return { s.pushOver 1 .sequenceEntry with allowsKey := true }

/-- The mark of a key. -/
def readKey (s : Layout) : Except Fault Layout := do
  let s ← (← s.openBlock .mappingStart).dropKey
  return { s.pushOver 1 .key with allowsKey := !s.inFlow }

/-- The colon behind a key. -/
def readValue (s : Layout) : Except Fault Layout :=
  match s.key with
  | some k =>
    let keyed := { s.insertAt k.number .key with key := none, allowsKey := false }
    let opened :=
      if !s.inFlow && s.isShallower k.position.column then
        (keyed.insertAt k.number .mappingStart).indent k.position.column
      else keyed
    .ok (opened.pushOver 1 .value)
  | none => do
    let s ← (← s.openBlock .mappingStart).dropKey
    return { s.pushOver 1 .value with allowsKey := !s.inFlow }

/-- A token that may start a key, read by a function from the cursor. -/
def readKeyed (s : Layout) (read : Cursor → Except Fault (Token × Cursor)) :
    Except Fault Layout := do
  let s ← s.noteKey
  let (t, cursor) ← read s.cursor
  return { s.push t with cursor, allowsKey := false }

/-- A block scalar. -/
def readBlockScalar (folded : Bool) (s : Layout) : Except Fault Layout := do
  let s ← s.dropKey
  let least := match s.indents with
    | [] => 1
    | indent :: _ => indent + 1
  let (text, cursor) ← blockScalar folded least s.cursor
  return { s.push (.scalar (Text.pointsOf text) false) with cursor, allowsKey := true }

/-- A plain scalar; a key may start behind it if a line does. -/
def readPlainScalar (s : Layout) : Except Fault Layout := do
  let s ← s.noteKey
  let indent := match s.indents with
    | [] => 0
    | indent :: _ => indent + 1
  let scalar := plainScalar s.inFlow indent s.cursor
  return { s.push (.scalar (scalar.text.map .char) true) with
    cursor := scalar.cursor, allowsKey := scalar.startsLine }

/-- Characters that cannot start a plain scalar. -/
def isIndicator (c : Char) : Bool := "-?:,[]\x7b\x7d#&*!|>'\"%@\x60".toList.contains c

/-- A plain scalar may start here. -/
def startsPlain (s : Layout) (c : Char) (rest : List Char) : Bool :=
  (!isGap c && !isIndicator c) ||
    (!atGap rest && (c == '-' || (!s.inFlow && (c == '?' || c == ':'))))

/-- Reads one token, with those that indentation implies before it. -/
def next (s : Layout) : Except Fault Layout := do
  let s ← s.skipBlanks.dropUnreaching
  let s := s.closeWhile (s.column < ·)
  match s.cursor.rest with
  | [] => s.readEnd
  | c :: rest =>
    if c == '%' && s.column == 0 then s.readDirectiveToken
    else if s.column == 0 && atDocumentMark '-' (c :: rest) then s.readDocumentMark .documentStart
    else if s.column == 0 && atDocumentMark '.' (c :: rest) then s.readDocumentMark .documentEnd
    else if c == '[' then s.readFlowStart .flowSequenceStart
    else if c == '\x7b' then s.readFlowStart .flowMappingStart
    else if c == ']' then s.readFlowEnd .flowSequenceEnd
    else if c == '\x7d' then s.readFlowEnd .flowMappingEnd
    else if c == ',' then s.readFlowEntry
    else if c == '-' && atGap rest then s.readSequenceEntry
    else if c == '?' && (s.inFlow || atGap rest) then s.readKey
    else if c == ':' && (s.inFlow || atGap rest) then s.readValue
    else if c == '*' then s.readKeyed fun c => (readName c).map fun (n, c) => (.alias n, c)
    else if c == '&' then s.readKeyed fun c => (readName c).map fun (n, c) => (.anchor n, c)
    else if c == '!' then s.readKeyed fun c => (readTag c).map fun (t, c) => (.tag t, c)
    else if c == '|' && !s.inFlow then s.readBlockScalar false
    else if c == '>' && !s.inFlow then s.readBlockScalar true
    else if c == '\'' then
      s.readKeyed fun c => (quotedScalar false c).map fun (t, c) => (.scalar t false, c)
    else if c == '"' then
      s.readKeyed fun c => (quotedScalar true c).map fun (t, c) => (.scalar t false, c)
    else if s.startsPlain c rest then s.readPlainScalar
    else .error .malformed

/-! ## Token lists -/

/-- The keys that may still end at the cursor. -/
def reachingKeys (s : Layout) : List PendingKey :=
  (s.key :: s.outerKeys).filterMap fun k => k.filter (·.reaches s.cursor.position)

/-- The tokens that can be handed out before the next token is read: those before the first one that
waits for its colon. -/
def settled (s : Layout) : List Token :=
  s.tokens.reverse.take ((s.reachingKeys.map (·.number)).foldl min s.count)

/-- Reads tokens until the text ends; a step takes at least one character. -/
def run : Nat → Layout → List Token
  | 0, s => s.settled ++ [.fault .malformed]
  | steps + 1, s =>
    match s.next with
    | .error f => s.settled ++ [.fault f]
    | .ok s' =>
      if s'.tokens.head? = some .streamEnd then s'.tokens.reverse else run steps s'

end Layout

/-- The tokens of a text. -/
def tokens (cs : List Char) : List Token := (Layout.start cs).run (cs.length + 1)

end ConnectRpc.Yaml
