import ConnectRpc.Text.Utf8

/-!
# Percent encoding

A message in a URL's query is its UTF-8 octets, each either one of the unreserved characters or a
percent sign with two upper-case hexadecimal digits.

* `percentEncode`: the encoded text.
* `percentDecode`: the octets of an encoded text.
-/

namespace ConnectRpc.Call

/-- Letters, digits and four marks stand for themselves in a query. -/
def isUnreserved (b : UInt8) : Bool :=
  (0x30 ≤ b && b ≤ 0x39) || (0x41 ≤ b && b ≤ 0x5A) || (0x61 ≤ b && b ≤ 0x7A) ||
    b == 0x2D || b == 0x2E || b == 0x5F || b == 0x7E

/-- The upper-case hexadecimal digit of a number below sixteen. -/
def upperHexDigit (n : Nat) : Char :=
  if n < 10 then Char.ofNat (0x30 + n) else Char.ofNat (0x37 + n)

/-- An octet in a query. -/
def percentOctet (b : UInt8) : List Char :=
  if isUnreserved b then [Char.ofNat b.toNat]
  else ['%', upperHexDigit (b.toNat / 16), upperHexDigit (b.toNat % 16)]

/-- Octets in a query. -/
def percentChars (bytes : Bytes) : List Char := bytes.flatMap percentOctet

/-- A text in a query. -/
def percentEncode (s : String) : String := String.ofList (percentChars (Utf8.encode s))

/-- The octets that a query's text stands for. -/
def percentDecode : List Char → Bytes
  | [] => []
  | '%' :: hi :: lo :: rest =>
    match Bytes.hexValue? hi, Bytes.hexValue? lo with
    | some h, some l => UInt8.ofNat (16 * h + l) :: percentDecode rest
    | _, _ => UInt8.ofNat '%'.toNat :: percentDecode (hi :: lo :: rest)
  | c :: rest => String.utf8EncodeChar c ++ percentDecode rest

end ConnectRpc.Call
