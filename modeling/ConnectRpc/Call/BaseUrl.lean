import ConnectRpc.Call.Address
import ConnectRpc.Text.Blank

/-!
# Base URLs

A call goes to its client's base URL followed by the service and method. Before anything else
happens the base URL is taken apart far enough to find its scheme and host, and there are three
outcomes: it is usable, it is no HTTP URL with a host, or its host is malformed.

* `UrlParts.of`: scheme and host of a URL, or the fault in its host.
* `BaseUrl.check`: the verdict on a base URL.
* `methodUrl`: the URL of a method.
-/

namespace ConnectRpc.Call

open Text

/-- Characters that, in compatible form, hold one of the delimiters of a URL. -/
def delimiterLookalikes : List Nat :=
  [0x2047, 0x2048, 0x2049, 0x2100, 0x2101, 0x2105, 0x2106, 0x2A74, 0xFE13, 0xFE16, 0xFE55, 0xFE56,
   0xFE5F, 0xFE6B, 0xFF03, 0xFF0F, 0xFF1A, 0xFF1F, 0xFF20]

/-- Why the host of a URL is malformed. -/
inductive HostFault where
  /-- Brackets that do not enclose the host. -/
  | brackets
  /-- What stands in the brackets is refused. -/
  | bracketed (fault : BracketFault)
  /-- A character of the host would become a delimiter when normalised. -/
  | lookalike (host : String)
  deriving DecidableEq, Repr

/-- The wording of a fault. -/
def HostFault.message : HostFault → String
  | .brackets => "Invalid IPv6 URL"
  | .bracketed fault => fault.message
  | .lookalike host =>
    "netloc '" ++ host ++ "' contains invalid characters under NFKC normalization"

/-- Scheme, in lower case, and host of a URL; either may be empty. -/
structure UrlParts where
  scheme : String
  host : String
  deriving DecidableEq, Repr

/-- The character may stand in a scheme. -/
def isSchemeChar (c : Char) : Bool :=
  c.isAlphanum || c == '+' || c == '-' || c == '.'

/-- The scheme at the front, if one is there, and what follows its colon. -/
def splitScheme (cs : List Char) : List Char × List Char :=
  match cutAt ':' cs with
  | (name, some rest) =>
    if name.head?.any Char.isAlpha && name.all isSchemeChar then (name.map Char.toLower, rest)
    else ([], cs)
  | (_, none) => ([], cs)

/-- The host at the front, behind two slashes and up to the next delimiter. -/
def hostOf (cs : List Char) : List Char :=
  match cs with
  | '/' :: '/' :: rest => rest.takeWhile fun c => c != '/' && c != '?' && c != '#'
  | _ => []

/-- The characters after the last `sep`, or all of them. -/
def afterLast (sep : Char) (cs : List Char) : List Char :=
  (cs.reverse.takeWhile (· != sep)).reverse

/-- What is wrong with a host that has brackets in it. -/
def bracketsFault? (host : List Char) : Option HostFault :=
  let address := afterLast '@' host
  match cutAt '[' address with
  | (before, some bracketed) =>
    let (inside, port?) := cutAt ']' bracketed
    if !before.isEmpty then some .brackets
    else if port?.any fun port => !port.isEmpty && port.head? != some ':' then some .brackets
    else (bracketFault? inside).map .bracketed
  | (_, none) => (bracketFault? (cutAt ':' address).1).map .bracketed

/-- What is wrong with a host. -/
def hostFault? (host : List Char) : Option HostFault :=
  let opens := host.contains '['
  let closes := host.contains ']'
  if opens != closes then some .brackets
  else
    let fault? := if opens then bracketsFault? host else none
    match fault? with
    | some fault => some fault
    | none =>
      if host.any fun c => delimiterLookalikes.contains c.toNat then
        some (.lookalike (String.ofList host))
      else none

/-- The characters that count in a URL: none that are controls or spaces at the front, and no tab,
line feed or carriage return anywhere. -/
def significant (cs : List Char) : List Char :=
  (dropLeading (fun c => c.toNat ≤ 0x20) cs).filter fun c => c != '\t' && c != '\n' && c != '\r'

/-- Scheme and host of a URL. -/
def UrlParts.of (url : List Char) : Except HostFault UrlParts :=
  let (scheme, rest) := splitScheme (significant url)
  let host := hostOf rest
  match hostFault? host with
  | some fault => .error fault
  | none => .ok ⟨String.ofList scheme, String.ofList host⟩

/-- The URL without its trailing slashes. -/
def withoutSlashes (url : String) : String :=
  String.ofList (dropTrailing (· == '/') url.toList)

/-- A base URL can be used: it is an HTTP URL and names a host. A malformed host is a fault. -/
def isUsableBase (url : String) : Except HostFault Bool :=
  (UrlParts.of (withoutSlashes url).toList).map fun parts =>
    (parts.scheme == "http" || parts.scheme == "https") && parts.host != ""

/-- The URL of a service's method. -/
def methodUrl (base service method : String) : String :=
  withoutSlashes base ++ "/" ++ service ++ "/" ++ method

end ConnectRpc.Call
