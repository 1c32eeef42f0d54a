/-!
# Decimal numerals

Whole numbers as texts, and the value of a stretch of decimal digits.

* `natText`, `intText`: no leading zeros, a minus sign before a negative number.
* `digitsValue`: the number that decimal digits spell.
* `longestNumeral`: no reader takes a whole number of more than this many decimal digits.
-/

namespace ConnectRpc.Number

/-- The decimal digits of a natural number. -/
def natText (n : Nat) : String := String.ofList (Nat.toDigits 10 n)

/-- The decimal digits of an integer, behind a minus sign if it is negative. -/
def intText : Int → String
  | .ofNat n => natText n
  | .negSucc n => "-" ++ natText (n + 1)

/-- The character is one of the ten ASCII digits. -/
def isAsciiDigit (c : Char) : Bool := '0' ≤ c && c ≤ '9'

/-- The value of an ASCII digit. -/
def digitValue (c : Char) : Nat := c.toNat - 0x30

/-- The number that ASCII digits spell in base ten. -/
def digitsValue (cs : List Char) : Nat := cs.foldl (fun n c => 10 * n + digitValue c) 0

/-- The greatest number of decimal digits that a whole number may be read from. -/
def longestNumeral : Nat := 4300

/-- What a reader says of a whole number with more digits than `longestNumeral`. -/
def tooLongText (digits : Nat) : String :=
  "Exceeds the limit (" ++ natText longestNumeral ++
    " digits) for integer string conversion: value has " ++ natText digits ++
    " digits; use sys.set_int_max_str_digits() to increase the limit"

end ConnectRpc.Number
