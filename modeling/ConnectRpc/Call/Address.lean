import ConnectRpc.Bytes
import ConnectRpc.Number.Numeral
import ConnectRpc.Text.Pieces
import ConnectRpc.Text.Quoted

/-!
# Addresses in brackets

The host of a base URL may stand in brackets. It is then an IPv6 address or an address of a later
version, and this module decides which texts are one.

* `isIPv4`: four decimal octets without leading zeros.
* `isIPv6`: eight groups of up to four hexadecimal digits, where one double colon stands for one or
  more zero groups, the last two groups may be an IPv4 address, and a zone may follow a percent
  sign.
* `bracketFault?`: what is wrong with a host in brackets.
-/

namespace ConnectRpc.Call

open Text

/-- The characters are the decimal digits of an octet, without leading zeros. -/
def isDecimalOctet (cs : List Char) : Bool :=
  !cs.isEmpty && cs.all Number.isAsciiDigit && cs.length ≤ 3 &&
    (cs == ['0'] || cs.head? != some '0') && Number.digitsValue cs ≤ 255

/-- Four decimal octets between dots. -/
def isIPv4 (cs : List Char) : Bool :=
  let octets := pieces '.' cs
  octets.length == 4 && octets.all isDecimalOctet

/-- One to four hexadecimal digits. -/
def isHexGroup (cs : List Char) : Bool :=
  !cs.isEmpty && cs.length ≤ 4 && cs.all fun c => (Bytes.hexValue? c).isSome

/-- Places of the empty groups other than the first and the last. -/
def innerGaps (groups : List (List Char)) : List Nat :=
  (List.range groups.length).filter fun i =>
    0 < i && i + 1 < groups.length && (groups[i]?).any List.isEmpty

/-- Groups between colons that spell sixteen octets. -/
def isGroups (groups : List (List Char)) : Bool :=
  match innerGaps groups with
  | [] => groups.length == 8 && groups.all isHexGroup
  | [gap] =>
    let before := groups.take gap
    let after := groups.drop (gap + 1)
    -- An empty group at an end is the other half of a double colon there.
    let before? := if before == [[]] then some [] else if before.head? == some [] then none
      else some before
    let after? := if after == [[]] then some [] else if after.getLast? == some [] then none
      else some after
    match before?, after? with
    | some before, some after =>
      before.length + after.length ≤ 7 && before.all isHexGroup && after.all isHexGroup
    | _, _ => false
  | _ => false

/-- The groups with an IPv4 address at the end taken for two groups. -/
def expandIPv4 (groups : List (List Char)) : Option (List (List Char)) :=
  match groups.getLast? with
  | some last =>
    if last.contains '.' then
      if isIPv4 last then some (groups.dropLast ++ [['0'], ['0']]) else none
    else some groups
  | none => some groups

/-- An IPv6 address, with or without a zone. -/
def isIPv6 (cs : List Char) : Bool :=
  let (address, zone?) := cutAt '%' cs
  let zoneOk := zone?.all fun zone => !zone.isEmpty && !zone.contains '%'
  let groups := pieces ':' address
  zoneOk && !cs.contains '/' && 3 ≤ groups.length &&
    (expandIPv4 groups).any fun groups => groups.length ≤ 9 && isGroups groups

/-- An address of a later version: `v`, hexadecimal digits, a dot, and anything. -/
def isFutureAddress (cs : List Char) : Bool :=
  match cs with
  | 'v' :: rest =>
    let version := rest.takeWhile fun c => (Bytes.hexValue? c).isSome
    match rest.drop version.length with
    | '.' :: tail => !version.isEmpty && !tail.isEmpty && !tail.contains '\n'
    | _ => false
  | _ => false

/-- Why a host in brackets is refused. -/
inductive BracketFault where
  | futureAddress
  | notAnAddress (host : String)
  | version4
  deriving DecidableEq, Repr

/-- The wording of a refusal. -/
def BracketFault.message : BracketFault → String
  | .futureAddress => "IPvFuture address is invalid"
  | .notAnAddress host => quote host ++ " does not appear to be an IPv4 or IPv6 address"
  | .version4 => "An IPv4 address cannot be in brackets"

/-- What is wrong with a host in brackets. -/
def bracketFault? (host : List Char) : Option BracketFault :=
  if host.head? == some 'v' then
    if isFutureAddress host then none else some .futureAddress
  else if isIPv4 host then some .version4
  else if isIPv6 host then none
  else some (.notAnAddress (String.ofList host))

end ConnectRpc.Call
