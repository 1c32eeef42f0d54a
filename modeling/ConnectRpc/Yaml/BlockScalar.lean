import ConnectRpc.Yaml.Cursor
import ConnectRpc.Yaml.Fault

/-!
# Block scalars

Scalars whose text is a block of indented lines behind an indicator. A literal one keeps its line
breaks; a folded one makes a space of a line break between two lines that start with text. The
header may give the depth of the block and say what becomes of the line breaks at its end.

* `blockScalar`: the text of the scalar whose indicator stands here, and the cursor behind it.
-/

namespace ConnectRpc.Yaml

/-- What becomes of the line breaks at the end of a block. -/
inductive Chomping where
  | strip
  | clip
  | keep
  deriving DecidableEq, Repr

/-- What a character says about the line breaks at the end of a block. -/
def chomping? (c : Char) : Option Chomping := [('+', Chomping.keep), ('-', .strip)].lookup c

/-- The depth that a character gives to a block. -/
def depth? (c : Char) : Option Nat :=
  if '0' ≤ c ∧ c ≤ '9' then some (c.toNat - 0x30) else none

/-- Reads the two indicators of a header, which may come in either order; a depth is not zero. -/
def blockHeader (c : Cursor) : Except Fault (Chomping × Option Nat × Cursor) := do
  let (chomping, depth, next) :=
    match c.rest with
    | a :: b :: _ =>
      match chomping? a, depth? b, depth? a, chomping? b with
      | some ch, some n, _, _ => (ch, some n, c.drop 2)
      | some ch, none, _, _ => (ch, none, c.drop 1)
      | none, _, some n, some ch => (ch, some n, c.drop 2)
      | none, _, some n, none => (.clip, some n, c.drop 1)
      | none, _, none, _ => (.clip, none, c)
    | [a] =>
      match chomping? a, depth? a with
      | some ch, _ => (ch, none, c.drop 1)
      | none, some n => (.clip, some n, c.drop 1)
      | none, none => (.clip, none, c)
    | [] => (.clip, none, c)
  if depth = some 0 then throw .malformed
  if !atSpace next.rest then throw .malformed
  return (chomping, depth, next)

/-- Reads blank lines: their line breaks, latest first, the widest column that spaces reach, and the
cursor before the first other character. -/
def blankFront (p : Position) (breaks : List Char) (widest : Nat) :
    List Char → List Char × Nat × Cursor
  | [] => (breaks, widest, ⟨[], p⟩)
  | c :: rest =>
    if isBreak c then blankFront (p.after c) (breakValue c :: breaks) widest rest
    else if c == ' ' then blankFront (p.after c) breaks (max widest (p.column + 1)) rest
    else (breaks, widest, ⟨c :: rest, p⟩)

/-- Reads line breaks, latest first, with up to `indent` spaces at the start of each line. -/
def blankLines (indent : Nat) (p : Position) (breaks : List Char) :
    List Char → List Char × Cursor
  | [] => (breaks, ⟨[], p⟩)
  | c :: rest =>
    if isBreak c then blankLines indent (p.after c) (breakValue c :: breaks) rest
    else if c == ' ' && p.column < indent then blankLines indent (p.after c) breaks rest
    else (breaks, ⟨c :: rest, p⟩)

/-- The lines of a block: their text, the line break behind the last one, the line breaks behind
that, and the cursor behind them. -/
structure BlockLines where
  text : List Char
  lastBreak : List Char
  breaks : List Char
  cursor : Cursor

/-- What stands between two lines of a block whose line break and blank lines are given. -/
def blockJoint (folded startsWithText : Bool) (lineBreak breaks next : List Char) : List Char :=
  if folded && lineBreak == ['\n'] && startsWithText && !endsOr isSpaceOrTab next then
    if breaks.isEmpty then [' '] else []
  else lineBreak

/-- Reads the lines of a block that start at a column; a step takes one line, so that there are
fewer steps than characters. -/
def blockLines (folded : Bool) (indent : Nat) : Nat → List Char → Cursor → BlockLines
  | 0, breaks, c => ⟨[], [], breaks, c⟩
  | steps + 1, breaks, c =>
    if c.column == indent && !c.rest.isEmpty then
      let (line, atBreak) := c.line
      let startsWithText := !endsOr isSpaceOrTab line
      let (lineBreak, behind) :=
        match atBreak.lineBreak? with
        | some (b, next) => ([b], next)
        | none => ([], atBreak)
      let (blank, next) := blankLines indent behind.position [] behind.rest
      let blank := blank.reverse
      if next.column == indent && !next.rest.isEmpty then
        let more := blockLines folded indent steps blank next
        { more with
          text := breaks ++ line ++
            blockJoint folded startsWithText lineBreak blank next.rest ++ more.text }
      else ⟨breaks ++ line, lineBreak, blank, next⟩
    else ⟨[], [], breaks, c⟩

/-- The text of the block scalar whose indicator stands at the cursor, and the cursor behind it. The
block is at least `least` columns deep. -/
def blockScalar (folded : Bool) (least : Nat) (c : Cursor) : Except Fault (String × Cursor) := do
  let (chomping, depth, next) ← blockHeader (c.drop 1)
  let ended := next.skipComment
  if !atLineEnd ended.rest then throw .malformed
  let body := ended.skipBreak
  let (indent, breaks, first) :=
    match depth with
    | none =>
      let (breaks, widest, first) := blankFront body.position [] 0 body.rest
      (max least widest, breaks, first)
    | some n =>
      let indent := least + n - 1
      let (breaks, first) := blankLines indent body.position [] body.rest
      (indent, breaks, first)
  let lines := blockLines folded indent first.rest.length breaks.reverse first
  let tail :=
    match chomping with
    | .strip => []
    | .clip => lines.lastBreak
    | .keep => lines.lastBreak ++ lines.breaks
  return (String.ofList (lines.text ++ tail), lines.cursor)

end ConnectRpc.Yaml
