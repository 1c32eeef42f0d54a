import ConnectRpc.Bytes
import ConnectRpc.Text.PrintableChars

/-!
# Quoted texts

A text between quotes, on one line. The quote is the apostrophe, unless the text holds an apostrophe
and no double quote. The quote itself and the backslash are written after a backslash, the tab, the
line feed and the carriage return by letter, and every other character that is not printable by its
code point in two, four or eight hexadecimal digits.

* `quote`: the text between its quotes; this is how messages show names and how generated code
  writes string literals.
* `quoteBytes`: the same for octets, with everything outside printable ASCII in two digits.
-/

namespace ConnectRpc.Text

/-- The lower-case hexadecimal digits of a number, at least `width` of them. -/
def hexPadded (width n : Nat) : List Char :=
  let digits := Nat.toDigits 16 n
  List.replicate (width - digits.length) '0' ++ digits

/-- The quote for a text: the apostrophe, unless that occurs and the double quote does not. -/
def quoteFor (cs : List Char) : Char :=
  if cs.contains '\'' && !cs.contains '"' then '"' else '\''

/-- A character between the quotes `q`. -/
def quoteChar (q : Char) (c : Char) : List Char :=
  if c = q ∨ c = '\\' then ['\\', c]
  else if c = '\t' then ['\\', 't']
  else if c = '\n' then ['\\', 'n']
  else if c = '\r' then ['\\', 'r']
  else if isPrintable c then [c]
  else if c.toNat < 0x100 then '\\' :: 'x' :: hexPadded 2 c.toNat
  else if c.toNat < 0x10000 then '\\' :: 'u' :: hexPadded 4 c.toNat
  else '\\' :: 'U' :: hexPadded 8 c.toNat

/-- The characters between their quotes. -/
def quoteChars (cs : List Char) : List Char :=
  quoteFor cs :: cs.flatMap (quoteChar (quoteFor cs)) ++ [quoteFor cs]

/-- The text between its quotes. -/
def quote (s : String) : String := String.ofList (quoteChars s.toList)

/-- An octet between the quotes `q`. -/
def quoteByte (q : Char) (b : UInt8) : List Char :=
  let c := Char.ofNat b.toNat
  if c = q ∨ c = '\\' then ['\\', c]
  else if c = '\t' then ['\\', 't']
  else if c = '\n' then ['\\', 'n']
  else if c = '\r' then ['\\', 'r']
  else if 0x20 ≤ b ∧ b < 0x7F then [c]
  else '\\' :: 'x' :: hexPadded 2 b.toNat

/-- The octets between their quotes, behind a `b`. -/
def quoteBytes (bytes : Bytes) : String :=
  let q := quoteFor (bytes.map fun b => Char.ofNat b.toNat)
  String.ofList ('b' :: q :: bytes.flatMap (quoteByte q) ++ [q])

end ConnectRpc.Text
