import ConnectRpc.Bytes

/-!
# UTF-8

Octets to characters, in two ways that share one step. `front` takes either one well-formed sequence
or one ill-formed stretch off the front of the octets; the stretch is the longest one that begins
some well-formed sequence (at least one octet), which is how the replacement of ill-formed text is
counted in the Unicode standard.

* `encode`: the octets of a text.
* `decodeChars?`: the characters of octets that are well formed throughout.
* `decodeLossy`: any octets, with U+FFFD for every ill-formed stretch.
* `front_length_le`: a step leaves no more than what followed the first octet.
-/

namespace ConnectRpc.Utf8

/-- The octets of a text. -/
def encode (s : String) : Bytes := s.toList.flatMap String.utf8EncodeChar

/-- The octet continues a sequence. -/
def isTail (b : UInt8) : Bool := 0x80 ≤ b && b ≤ 0xBF

/-- The least and greatest second octet that may follow a lead octet of three or four. -/
def secondRange (lead : UInt8) : UInt8 × UInt8 :=
  if lead = 0xE0 then (0xA0, 0xBF)
  else if lead = 0xED then (0x80, 0x9F)
  else if lead = 0xF0 then (0x90, 0xBF)
  else if lead = 0xF4 then (0x80, 0x8F)
  else (0x80, 0xBF)

/-- The octet may follow the lead octet. -/
def isSecond (lead b : UInt8) : Bool := (secondRange lead).1 ≤ b && b ≤ (secondRange lead).2

/-- The low six bits of a continuing octet. -/
def tailBits (b : UInt8) : Nat := b.toNat % 64

/-- The character of a lead octet and its rest, or nothing for an ill-formed stretch; with the
octets after what was taken. -/
def front (lead : UInt8) (rest : Bytes) : Option Char × Bytes :=
  if lead < 0x80 then (some (Char.ofNat lead.toNat), rest)
  else if lead < 0xC2 then (none, rest)
  else if lead < 0xE0 then
    match rest with
    | b :: rest' =>
      if isTail b then (some (Char.ofNat (lead.toNat % 32 * 64 + tailBits b)), rest')
      else (none, rest)
    | [] => (none, [])
  else if lead < 0xF0 then
    match rest with
    | b :: c :: rest' =>
      if isSecond lead b then
        if isTail c then
          (some (Char.ofNat ((lead.toNat % 16 * 64 + tailBits b) * 64 + tailBits c)), rest')
        else (none, c :: rest')
      else (none, rest)
    | [b] => if isSecond lead b then (none, []) else (none, rest)
    | [] => (none, [])
  else if lead < 0xF5 then
    match rest with
    | b :: c :: d :: rest' =>
      if isSecond lead b then
        if isTail c then
          if isTail d then
            (some (Char.ofNat
              (((lead.toNat % 8 * 64 + tailBits b) * 64 + tailBits c) * 64 + tailBits d)), rest')
          else (none, d :: rest')
        else (none, c :: d :: rest')
      else (none, rest)
    | [b, c] =>
      if isSecond lead b then if isTail c then (none, []) else (none, [c]) else (none, rest)
    | [b] => if isSecond lead b then (none, []) else (none, rest)
    | [] => (none, [])
  else (none, rest)

theorem front_length_le (lead : UInt8) (rest : Bytes) :
    (front lead rest).2.length ≤ rest.length := by
  unfold front
  repeat' split
  all_goals simp
  all_goals omega

/-- The characters of octets that are well formed throughout. -/
def decodeChars? : Bytes → Option (List Char)
  | [] => some []
  | lead :: rest =>
    match (front lead rest).1 with
    | some c => (decodeChars? (front lead rest).2).map (c :: ·)
    | none => none
  termination_by bytes => bytes.length
  decreasing_by
    have := front_length_le lead rest
    simp; omega

/-- The characters of any octets, with U+FFFD for each ill-formed stretch. -/
def decodeLossyChars : Bytes → List Char
  | [] => []
  | lead :: rest =>
    ((front lead rest).1.getD (Char.ofNat 0xFFFD)) :: decodeLossyChars (front lead rest).2
  termination_by bytes => bytes.length
  decreasing_by
    have := front_length_le lead rest
    simp; omega

/-- The text of any octets, with U+FFFD for each ill-formed stretch. -/
def decodeLossy (bytes : Bytes) : String := String.ofList (decodeLossyChars bytes)

end ConnectRpc.Utf8
