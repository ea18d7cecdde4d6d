/-
Entail/Url/Host.lean

The host of a URL: an IP address, a domain name, or, for schemes whose hosts mean nothing in
general, a text taken as it stands.
-/
import Entail.Url.Address
import Entail.Url.Domain
import Entail.Url.Error
import Entail.Url.Percent

namespace Entail.Url

/-- A host. -/
inductive Host where
  | name (text : List Char)
  | v4 (address : Nat)
  | v6 (pieces : List Nat)
  deriving DecidableEq, Repr

namespace Host

/-- No host at all. -/
def empty : Host := .name []

/-- The written form of a host.  An IPv6 address stands in brackets. -/
def text : Host → List Char
  | .name s => s
  | .v4 address => ipv4Text address
  | .v6 pieces => '[' :: ipv6Text pieces ++ [']']

/-- The host that a text in brackets writes, from after the opening bracket on. -/
def ofBrackets (s : List Char) : Except Error Host :=
  match s.reverse with
  | ']' :: r =>
    match ipv6? r.reverse with
    | some pieces => .ok (.v6 pieces)
    | none => .error .ipv6
  | _ => .error .ipv6

/-- The host that a domain name writes.  One that ends in a number is an IPv4 address or nothing. -/
def ofDomain (s : List Char) : Except Error Host :=
  if s = [] then .error .emptyHost
  else if endsInNumber s then
    match ipv4? s with
    | some address => .ok (.v4 address)
    | none => .error .ipv4
  else .ok (.name s)

/-- The host of a scheme that looks hosts up. -/
def ofText : List Char → Except Error Host
  | '[' :: s => ofBrackets s
  | s => do
    let decoded ← (String.fromUTF8? ⟨(percentDecode s).toArray⟩).elim (.error .domainName) .ok
    let name ← (domain? decoded.toList).elim (.error .domainName) .ok
    ofDomain name

/-- Characters that no host holds. -/
def deniedInText (c : Char) : Bool :=
  ['\x00', '\t', '\n', '\r', ' ', '#', '/', ':', '<', '>', '?', '@', '[', '\\', ']', '^',
    '|'].contains c

/-- The host of any other scheme. -/
def ofPlain : List Char → Except Error Host
  | '[' :: s => ofBrackets s
  | s =>
    if s.any deniedInText then .error .domainCharacter
    else .ok (.name (percentEncode encodedAlways s))

end Host

end Entail.Url
