import ConnectRpc.Bytes

/-!
# Varints

A number in octets of seven bits each, lowest bits first; every octet but the last has its high bit
set. A reader takes at most a given number of octets.

* `varint?`, `varint`: reading and writing.
-/

namespace ConnectRpc.Protobuf

/-- The number at the front of octets, in at most `most` of them, and what follows it. -/
def varint? : Nat → Bytes → Option (Nat × Bytes)
  | 0, _ => none
  | _, [] => none
  | most + 1, b :: rest =>
    if b.toNat < 128 then some (b.toNat, rest)
    else (varint? most rest).map fun (n, rest) => (b.toNat - 128 + 128 * n, rest)

/-- The octets of a number. -/
def varint (n : Nat) : Bytes :=
  if n < 128 then [UInt8.ofNat n] else UInt8.ofNat (n % 128 + 128) :: varint (n / 128)
termination_by n
decreasing_by omega

end ConnectRpc.Protobuf
