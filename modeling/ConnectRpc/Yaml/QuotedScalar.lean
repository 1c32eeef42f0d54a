import ConnectRpc.Bytes
import ConnectRpc.Text.Point
import ConnectRpc.Yaml.Cursor
import ConnectRpc.Yaml.Fault

/-!
# Quoted scalars

Scalars between quotation marks or apostrophes. Between apostrophes only the doubled apostrophe is
special; between quotation marks a backslash starts an escape. In both, blanks around line breaks go
away, one line break is a space, and further ones stay.

An escape may give half of a character; the scalar keeps it, also beside the other half.

* `quotedScalar`: the text of the scalar whose opening mark stands here, and the cursor behind it.
-/

namespace ConnectRpc.Yaml

/-- The character that a letter behind a backslash stands for. -/
def escapeValue? (c : Char) : Option Char :=
  [('0', '\x00'), ('a', '\x07'), ('b', '\x08'), ('t', '\t'), ('\t', '\t'), ('n', '\n'),
    ('v', '\x0B'), ('f', '\x0C'), ('r', '\r'), ('e', '\x1B'), (' ', ' '), ('"', '"'),
    ('\\', '\\'), ('/', '/'), ('N', '\u0085'), ('_', '\u00A0'), ('L', '\u2028'),
    ('P', '\u2029')].lookup c

/-- The number of hexadecimal digits behind a letter that starts a numbered escape. -/
def escapeDigits? (c : Char) : Option Nat := [('x', 2), ('u', 4), ('U', 8)].lookup c

/-- The code point that a numbered escape gives. -/
def checkCode (code : Nat) : Except Fault Nat :=
  if code < 0x110000 then .ok code
  else if code < 0x80000000 then .error .noSuchCharacter
  else .error .hugeCharacter

/-- What the characters before a place in a quoted scalar ask for. -/
inductive QuotedState where
  | text
  /-- Blanks, latest first, that count unless a line break follows. -/
  | blanks (run : List Char)
  /-- Line breaks: the first one, unless it was escaped, and the others, latest first. -/
  | fold (first : Option Char) (others : List Char)
  /-- A backslash. -/
  | escape
  /-- A numbered escape with digits to come. -/
  | digits (left code : Nat)
  /-- An apostrophe, which is doubled or closes the scalar. -/
  | apostrophe

/-- The code points, latest first, when held blanks and line breaks are followed by text. -/
def QuotedState.release (out : List Nat) : QuotedState → List Nat
  | .blanks run => run.map Char.toNat ++ out
  | .fold first others =>
    let front :=
      match first with
      | none => out
      | some '\n' => if others.isEmpty then ' '.toNat :: out else out
      | some b => b.toNat :: out
    others.map Char.toNat ++ front
  | _ => out

/-- The state behind a line break; a document may not start or end inside a scalar. -/
def foldLine (state : QuotedState) (rest : List Char) : Except Fault QuotedState :=
  if atSeparator rest then .error .malformed else .ok state

/-- Reads a quoted scalar from the state and the code points, latest first, that the characters so
far give. -/
def quotedFrom (double : Bool) (state : QuotedState) (out : List Nat) (p : Position) :
    List Char → Except Fault (List Nat × Cursor)
  | [] =>
    match state with
    | .apostrophe => .ok (out, ⟨[], p⟩)
    | _ => .error .malformed
  | c :: rest =>
    match state with
    | .escape =>
      match escapeValue? c with
      | some v => quotedFrom double .text (v.toNat :: out) (p.after c) rest
      | none =>
        match escapeDigits? c with
        | some n => quotedFrom double (.digits n 0) out (p.after c) rest
        | none =>
          if isBreak c then do
            let next ← foldLine (.fold none []) rest
            quotedFrom double next out (p.after c) rest
          else .error .malformed
    | .digits left code =>
      match Bytes.hexValue? c with
      | none => .error .malformed
      | some v =>
        if left ≤ 1 then do
          let n ← checkCode (16 * code + v)
          quotedFrom double .text (n :: out) (p.after c) rest
        else quotedFrom double (.digits (left - 1) (16 * code + v)) out (p.after c) rest
    | .apostrophe =>
      if c == '\'' then quotedFrom double .text ('\''.toNat :: out) (p.after c) rest
      else .ok (out, ⟨c :: rest, p⟩)
    | state =>
      if isSpaceOrTab c then
        match state with
        | .blanks run => quotedFrom double (.blanks (c :: run)) out (p.after c) rest
        | .fold first others => quotedFrom double (.fold first others) out (p.after c) rest
        | _ => quotedFrom double (.blanks [c]) out (p.after c) rest
      else if isBreak c then do
        let folded :=
          match state with
          | .fold first others => .fold first (breakValue c :: others)
          | _ => .fold (some (breakValue c)) []
        let next ← foldLine folded rest
        quotedFrom double next out (p.after c) rest
      else
        let out := state.release out
        if double && c == '"' then .ok (out, ⟨rest, p.after c⟩)
        else if double && c == '\\' then quotedFrom double .escape out (p.after c) rest
        else if !double && c == '\'' then quotedFrom double .apostrophe out (p.after c) rest
        else quotedFrom double .text (c.toNat :: out) (p.after c) rest

/-- The text of the quoted scalar whose opening mark stands at the cursor, and the cursor behind its
closing mark. -/
def quotedScalar (double : Bool) (c : Cursor) : Except Fault (List Text.Point × Cursor) := do
  let opened := c.drop 1
  let (out, next) ← quotedFrom double .text [] opened.position opened.rest
  return (out.reverse.map .ofNat, next)

end ConnectRpc.Yaml
