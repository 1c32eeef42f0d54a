/-!
# Patterns

Regular expressions over characters, matched by derivatives: what a pattern leaves to match after a
character is a pattern again. The joining functions drop parts that match nothing, so that a pattern
does not grow along a text.

* `Pattern.accepts`: the pattern matches the whole text.
-/

namespace ConnectRpc.Text

/-- A regular expression. -/
inductive Pattern where
  /-- Matches no text. -/
  | never
  /-- Matches the empty text. -/
  | empty
  /-- Matches one character of a class. -/
  | one (p : Char → Bool)
  | seq (first second : Pattern)
  | alt (first second : Pattern)
  | star (body : Pattern)

namespace Pattern

/-- The pattern matches the empty text. -/
def nullable : Pattern → Bool
  | .never => false
  | .empty => true
  | .one _ => false
  | .seq a b => a.nullable && b.nullable
  | .alt a b => a.nullable || b.nullable
  | .star _ => true

/-- One pattern behind another. -/
def joinSeq : Pattern → Pattern → Pattern
  | .never, _ => .never
  | .empty, b => b
  | a, b => .seq a b

/-- One pattern or another. -/
def joinAlt : Pattern → Pattern → Pattern
  | .never, b => b
  | a, .never => a
  | a, b => .alt a b

/-- What is left to match after a character. -/
def derivative (c : Char) : Pattern → Pattern
  | .never => .never
  | .empty => .never
  | .one p => if p c then .empty else .never
  | .seq a b =>
    let front := joinSeq (a.derivative c) b
    if a.nullable then joinAlt front (b.derivative c) else front
  | .alt a b => joinAlt (a.derivative c) (b.derivative c)
  | .star a => joinSeq (a.derivative c) (.star a)

/-- The pattern matches the whole text. -/
def accepts (p : Pattern) (cs : List Char) : Bool :=
  (cs.foldl (fun p c => p.derivative c) p).nullable

/-! ## Building patterns -/

/-- One of the characters of a text. -/
def oneOf (s : String) : Pattern := .one fun c => s.toList.contains c

/-- The text itself. -/
def literal (s : String) : Pattern := s.toList.foldr (fun c p => .seq (.one (· == c)) p) .empty

/-- The patterns one after the other. -/
def sequence (ps : List Pattern) : Pattern := ps.foldr .seq .empty

/-- Any of the patterns. -/
def anyOf (ps : List Pattern) : Pattern := ps.foldr .alt .never

/-- Any of the texts. -/
def anyText (texts : List String) : Pattern := anyOf (texts.map literal)

/-- The pattern or nothing. -/
def optional (p : Pattern) : Pattern := .alt p .empty

/-- The pattern once or more often. -/
def plus (p : Pattern) : Pattern := .seq p (.star p)

end Pattern

end ConnectRpc.Text
