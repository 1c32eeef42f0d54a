import ConnectRpc.Number.Numeral
import ConnectRpc.Text.Blank
import ConnectRpc.Text.DigitChars
import ConnectRpc.Text.Pieces
import ConnectRpc.Yaml.Fault

/-!
# Numbers in YAML texts

Which texts are numbers. The type of a scalar can be given by a tag, so that a text that does not
look like a number may have to be one; then the same rules decide. Underscores count for nothing,
and places between colons are places in base sixty.

* `integer`, `float`: the fault of a text that is no number of the type.
-/

namespace ConnectRpc.Yaml

open Text

/-- The value of a digit in a base up to sixteen. -/
def digitIn? (base : Nat) (c : Char) : Option Nat :=
  let value? :=
    match decimalValue? c with
    | some n => some n
    | none =>
      if 'a' ≤ c ∧ c ≤ 'f' then some (c.toNat - 0x57)
      else if 'A' ≤ c ∧ c ≤ 'F' then some (c.toNat - 0x37)
      else none
  value?.filter (· < base)

/-- A digit of a base. -/
def isDigitIn (base : Nat) : Point → Bool
  | .char c => (digitIn? base c).isSome
  | .half _ => false

/-- A blank that may stand around a number; the separators of ASCII may not. -/
def isMargin : Point → Bool
  | .char c => isBlank c && !(0x1C ≤ c.toNat && c.toNat ≤ 0x1F)
  | .half _ => false

/-- The text without blanks around it. -/
def dropMargins (text : List Point) : List Point :=
  ((text.dropWhile isMargin).reverse.dropWhile isMargin).reverse

/-- The text without a sign in front. -/
def dropSign : List Point → List Point
  | .char '+' :: rest => rest
  | .char '-' :: rest => rest
  | text => text

/-- The letter that marks a base behind a leading zero. -/
def baseMarks (base : Nat) : List Point :=
  if base = 16 then [.char 'x', .char 'X'] else if base = 8 then [.char 'o', .char 'O']
  else if base = 2 then [.char 'b', .char 'B']
  else []

/-- The text without the mark of its base in front. -/
def dropBaseMark (base : Nat) : List Point → List Point
  | .char '0' :: c :: rest => if c ∈ baseMarks base then rest else .char '0' :: c :: rest
  | text => text

/-- A whole number in a base, with blanks around it and a sign. Only decimal ones can be too long,
for only there the effort of reading grows faster than the text. -/
def wholeNumber (base : Nat) (text : List Point) : Except Fault Unit :=
  let digits := dropBaseMark base (dropSign (dropMargins text))
  let front := digits.takeWhile (isDigitIn base)
  if base = 10 ∧ Number.longestNumeral < front.length then .error (.numeralTooLong front.length)
  else if front.isEmpty ∨ front.length ≠ digits.length then .error (.notAnInteger base text)
  else .ok ()

/-- The text without underscores. -/
def dropGaps (text : List Point) : List Point := text.filter (· != .char '_')

/-- The text of an integer. -/
def integer (text : List Point) : Except Fault Unit :=
  match dropGaps text with
  | [] => .error .emptyNumeral
  | text =>
    match dropSign text with
    | [] => .error .emptyNumeral
    | [.char '0'] => .ok ()
    | .char '0' :: .char 'b' :: digits => wholeNumber 2 digits
    | .char '0' :: .char 'x' :: digits => wholeNumber 16 digits
    | .char '0' :: digits => wholeNumber 8 (.char '0' :: digits)
    | digits => (pieces (.char ':') digits).forM (wholeNumber 10)

/-- The text with ASCII capitals made small. -/
def smallLetters (text : List Point) : List Point :=
  text.map fun
    | .char c => .char (if 'A' ≤ c && c ≤ 'Z' then Char.ofNat (c.toNat + 0x20) else c)
    | .half h => .half h

/-- An exponent or nothing. -/
def isExponent : List Point → Bool
  | [] => true
  | .char 'e' :: rest =>
    let digits := dropSign rest
    !digits.isEmpty && digits.all (isDigitIn 10)
  | _ => false

/-- A decimal number: digits around a point that may be left out, and an exponent. -/
def isDecimal (text : List Point) : Bool :=
  let whole := text.takeWhile (isDigitIn 10)
  let behind := text.dropWhile (isDigitIn 10)
  match behind with
  | .char '.' :: rest =>
    let fraction := rest.takeWhile (isDigitIn 10)
    !(whole.isEmpty && fraction.isEmpty) && isExponent (rest.dropWhile (isDigitIn 10))
  | _ => !whole.isEmpty && isExponent behind

/-- A floating-point number in small letters, with blanks around it and a sign. -/
def realNumber (text : List Point) : Except Fault Unit :=
  let number := dropSign (dropMargins text)
  if ["inf", "infinity", "nan"].any (pointsOf · = number) || isDecimal number then .ok ()
  else .error (.notAFloat text)

/-- The greatest number of places in base sixty whose weights are in the range of floating-point
numbers. -/
def mostPlaces : Nat := 174

/-- The text of a floating-point number. -/
def float (text : List Point) : Except Fault Unit :=
  match smallLetters (dropGaps text) with
  | [] => .error .emptyNumeral
  | text =>
    let number := dropSign text
    if number = pointsOf ".inf" ∨ number = pointsOf ".nan" then .ok ()
    else
      let places := pieces (.char ':') number
      match places.forM realNumber with
      | .error f => .error f
      | .ok () => if mostPlaces < places.length then .error .hugeFloat else .ok ()

end ConnectRpc.Yaml
