import ConnectRpc.Yaml.Fault

/-!
# Octets in YAML texts

Octets are written in groups of four characters of six bits each; the last group may be filled up
with equals signs. Characters of ASCII that are no digits of this system count for nothing.

* `binary`: the fault of a text that ends within a group.
-/

namespace ConnectRpc.Yaml

/-- The character carries six bits. -/
def isSixBits (c : Char) : Bool :=
  ('A' ≤ c && c ≤ 'Z') || ('a' ≤ c && c ≤ 'z') || ('0' ≤ c && c ≤ '9') || c == '+' || c == '/'

/-- The groups are complete, given the characters of the current group and the equals signs in a row
before the next character. A group that equals signs fill up ends the octets. -/
def endsInGroup (place signs : Nat) : List Char → Bool
  | [] => place = 0
  | c :: rest =>
    if c = '=' then
      if 2 ≤ place then
        if 4 ≤ place + signs + 1 then true else endsInGroup place (signs + 1) rest
      else endsInGroup place signs rest
    else if isSixBits c then endsInGroup ((place + 1) % 4) 0 rest
    else endsInGroup place signs rest

/-- The text of octets. -/
def binary (text : List Text.Point) : Except Fault Unit :=
  match Text.chars? text with
  | none => .error .malformed
  | some cs =>
    if cs.all (·.toNat < 128) && endsInGroup 0 0 cs then .ok () else .error .malformed

end ConnectRpc.Yaml
