import ConnectRpc.Yaml.Cursor

/-!
# Plain scalars

Scalars without marks around them. One ends before a comment, before a colon that ends a key, at a
character that separates entries of a flow collection, and where the indentation falls back. Spaces
at its end do not belong to it; line breaks within it fold as in quoted scalars.

* `plainScalar`: the text of the scalar that starts here, the cursor behind it, and whether that
  cursor is at the start of a line.
-/

namespace ConnectRpc.Yaml

/-- The character ends a key when it stands behind a colon; inside flow collections more do. -/
def endsKey (inFlow : Bool) : List Char → Bool :=
  endsOr fun c => isGap c || (inFlow && ",[]\x7b\x7d".toList.contains c)

/-- The characters of a plain scalar up to the first one that may end it. -/
def plainRun (inFlow : Bool) : List Char → List Char
  | [] => []
  | c :: rest =>
    if isGap c || (c == ':' && endsKey inFlow rest) ||
        (inFlow && ",?[]\x7b\x7d".toList.contains c) then []
    else c :: plainRun inFlow rest

/-- Reads line breaks, latest first, and the spaces around them; none if a document starts or ends
there. -/
def plainBreaks (p : Position) (breaks : List Char) : List Char → Option (List Char) × Cursor
  | [] => (some breaks, ⟨[], p⟩)
  | c :: rest =>
    if c == ' ' then plainBreaks (p.after c) breaks rest
    else if isBreak c then
      if atSeparator rest then (none, ⟨rest, p.after c⟩)
      else plainBreaks (p.after c) (breakValue c :: breaks) rest
    else (some breaks, ⟨c :: rest, p⟩)

/-- What stands between two runs of a plain scalar. -/
structure PlainJoint where
  /-- The text that joins the runs; none if the scalar ends here. -/
  text : List Char
  cursor : Cursor
  crossesLines : Bool

/-- Reads what stands between two runs of a plain scalar. -/
def plainJoint (c : Cursor) : PlainJoint :=
  let (spaces, next) := c.span (· == ' ')
  match next.lineBreak? with
  | none => ⟨spaces, next, false⟩
  | some (b, behind) =>
    if atSeparator behind.rest then ⟨[], behind, true⟩
    else
      match plainBreaks behind.position [] behind.rest with
      | (none, cursor) => ⟨[], cursor, true⟩
      | (some breaks, cursor) =>
        let front := if b != '\n' then [b] else if breaks.isEmpty then [' '] else []
        ⟨front ++ breaks.reverse, cursor, true⟩

/-- A plain scalar: its text, the cursor behind it and behind blanks that follow it, and whether
that cursor has crossed a line break since the scalar's last run. -/
structure Plain where
  text : List Char
  cursor : Cursor
  startsLine : Bool

/-- Reads the runs of a plain scalar, given what joins the next run to those before; a step takes at
least one character. -/
def plainFrom (inFlow : Bool) (indent : Nat) : Nat → PlainJoint → Plain
  | 0, joint => ⟨[], joint.cursor, joint.crossesLines⟩
  | steps + 1, joint =>
    let run := plainRun inFlow joint.cursor.rest
    if joint.cursor.rest.head? = some '#' || run.isEmpty then
      ⟨[], joint.cursor, joint.crossesLines⟩
    else
      let next := plainJoint (joint.cursor.drop run.length)
      if next.text.isEmpty || next.cursor.rest.head? = some '#' ||
          (!inFlow && next.cursor.column < indent) then
        ⟨joint.text ++ run, next.cursor, next.crossesLines⟩
      else
        let more := plainFrom inFlow indent steps next
        { more with text := joint.text ++ run ++ more.text }

/-- The plain scalar that starts at the cursor; its further lines start at `indent` or deeper. -/
def plainScalar (inFlow : Bool) (indent : Nat) (c : Cursor) : Plain :=
  plainFrom inFlow indent c.rest.length ⟨[], c, false⟩

end ConnectRpc.Yaml
